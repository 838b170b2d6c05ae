import CanSocket.Chronicle
import CanSocket.Moves

namespace CanSocket

open Chronicle

/-- The part of the reserved space a `::read` may store to lies inside that space, or the size was negative and is asked
for as a `size_t`, which is refused. -/
def InsideSpace (space : Int) (call : ReadCall) : Prop :=
  (call.offset + call.length : Int) ≤ max space 0 ∨
    space < 0 ∧ call.length = (UInt64.ofInt space).toNat ∧ ∃ e, call.answer = .fail e

def Event.readsInside : Event → Prop
  | .read _ space call => InsideSpace space call
  | _ => True

theorem qtSafeRead_inside {maxSize : Nat} {answers : List ReadAnswer} :
    ∀ call ∈ (qtSafeRead maxSize answers).calls, call.offset + call.length = maxSize := by
  induction answers with
  | nil => simp [qtSafeRead]
  | cons answer answers ih =>
    cases answer with
    | got bytes => simp [qtSafeRead]
    | fail e =>
      by_cases interrupted : e = .EINTR
      · simpa [qtSafeRead, interrupted] using ih
      · simp [qtSafeRead, interrupted]

/-- The pointer `reserve` returned for a negative size is null, and the kernel stores nothing behind it. -/
theorem Protocol.readFromSocket_inside (p : Protocol) (maxSize : Int) (answers : List ReadAnswer) :
    ∀ call ∈ (p.readFromSocket maxSize answers).calls, InsideSpace maxSize call := by
  intro call mem
  cases p with
  | raw options => exact Or.inl (Int.le_trans (readLoop_calls_inside call mem) (Int.le_max_left _ _))
  | isoTp fields =>
    unfold readFromSocket isoTpReadFromSocket at mem
    by_cases negative : maxSize < 0
    · simp only [if_pos negative, List.mem_singleton] at mem
      rw [mem]
      exact Or.inr ⟨negative, rfl, _, rfl⟩
    · rw [if_neg negative] at mem
      have asked := qtSafeRead_inside call mem
      refine Or.inl ?_
      omega

def ReadsInside : Socket → Socket → Prop := Extends Socket.trace fun _ events _ => ∀ e ∈ events, e.readsInside

theorem ReadsInside.trans {s t u : Socket} (first : ReadsInside s t) (second : ReadsInside t u) : ReadsInside s u :=
  Extends.trans (fun one two e mem => (List.mem_append.mp mem).elim (one e) (two e)) first second

theorem ReadsInside.move {s t : Socket} (h : Move s t) : ReadsInside s t := by
  cases h with
  | silent same =>
    have trace : t.trace = s.trace := congrArg PublicView.trace same
    exact ⟨[], by rw [trace, List.append_nil], by simp⟩
  | passed e passing =>
    refine ⟨[e], rfl, fun e' mem => ?_⟩
    rw [List.mem_singleton.mp mem]
    cases e <;> trivial
  | queued data _ => exact ⟨[.queued data], rfl, by simp [Event.readsInside]⟩
  | failed env _ _ => exact ⟨_, rfl, by simp [Event.readsInside]⟩
  | sent env n _ _ _ _ =>
    refine ⟨_, List.append_assoc .., fun e mem => ?_⟩
    rcases List.mem_append.mp mem with sent | freed
    · rcases List.mem_cons.mp sent with rfl | call
      · trivial
      · obtain ⟨call, _, rfl⟩ := List.mem_map.mp call
        trivial
    · rw [List.mem_singleton.mp freed]
      trivial
  | filled answers bytesToRead =>
    refine ⟨_, rfl, fun e mem => ?_⟩
    rcases List.mem_cons.mp mem with rfl | call
    · trivial
    · obtain ⟨asked, made, rfl⟩ := List.mem_map.mp call
      exact s.protocol.readFromSocket_inside bytesToRead _ asked made
  | errored info => exact ⟨[.signal (.error info.errorCode)], rfl, by simp [Event.readsInside]⟩
  | stored option sig _ _ => exact ⟨[.signal sig], rfl, by simp [Event.readsInside]⟩
  | released option => exact ⟨[], (List.append_nil _).symm, by simp⟩
  | detached => exact ⟨[], (List.append_nil _).symm, by simp⟩

theorem readsInside : StatesKeep ReadsInside where
  toMovesKeep := by
    refine .of_unflagged ReadsInside.trans ReadsInside.move ?_ ?_ ?_
    · intro s t same
      obtain ⟨_, _, _, _, trace⟩ : t.state = s.state ∧ t.error = s.error ∧ t.protocol = s.protocol ∧
          t.writeBuffer = s.writeBuffer ∧ t.trace = s.trace := by
        simpa using same
      exact ⟨[], by rw [trace, List.append_nil], by simp⟩
    · exact fun s => ⟨[.signal .readyRead], rfl, by simp [Event.readsInside]⟩
    · exact fun n s => ⟨[.signal (.bytesWritten n)], rfl, by simp [Event.readsInside]⟩
  started _ _ _ _ := ⟨[.signal (.stateChanged .connectingState)], rfl, by simp [Event.readsInside]⟩
  entered _ _ := ⟨[.signal (.stateChanged _)], rfl, by simp [Event.readsInside]⟩

/-- Whatever is called on an object of either class, whatever read buffer size is set and whatever the kernel answers:
no `::read` can store outside the space reserved for it, not even where the buffer has outgrown its limit and a negative
size is asked for. -/
theorem reads_stay_inside (script : PublicScript) (s : Socket) :
    ∃ events, (script.exec s).trace = s.trace ++ events ∧ ∀ e ∈ events, e.readsInside :=
  readsInside.script script s

end CanSocket
