import CanSocket.BytesWrittenAccount
import CanSocket.Chronicle
import CanSocket.EmissionPoints
import CanSocket.History
import CanSocket.Moves

namespace CanSocket

open Chronicle History

def Event.isReadyRead (e : Event) : Bool := e = .signal .readyRead

def Event.isBytesWritten : Event → Bool
  | .signal (.bytesWritten _) => true
  | _ => false

/-- Between two moments both flags are as they were, and where one was set its signal was not emitted. -/
structure NotRecursive (s : Socket) (events : List Event) (t : Socket) : Prop where
  emittedReadyRead : t.emittedReadyRead = s.emittedReadyRead
  emittedBytesWritten : t.emittedBytesWritten = s.emittedBytesWritten
  readyRead : s.emittedReadyRead = true → ∀ e ∈ events, e.isReadyRead = false
  bytesWritten : s.emittedBytesWritten = true → ∀ e ∈ events, e.isBytesWritten = false

/-- The bytes the kernel took in one call. -/
def Event.takenBytes : Event → Int
  | .write _ call => (call.answer.taken call.bytes).length
  | _ => 0

/-- Where `bytesWritten` is emitted, the kernel has taken that many bytes more than were reported before. -/
def ReportsTaken (before : List Event) (e : Event) : Prop :=
  match e with
  | .signal (.bytesWritten bytes) =>
    0 < bytes ∧ total Event.emittedBytes before + bytes ≤ total Event.takenBytes before
  | _ => True

/-- What has been reported and what is to be reported next stays within what was let go of, and that within what the
kernel took; while a report is being told, what is pending may already be part of it. -/
structure ReportsWithin (s : Socket) : Prop where
  pending : 0 ≤ s.pendingBytesWritten
  reported : s.emittedTotal + (if s.emittedBytesWritten then 0 else s.pendingBytesWritten) ≤ s.freedTotal
  freed : s.freedTotal ≤ total Event.takenBytes s.trace
  each : EachAfter ReportsTaken s.trace

variable {s t u : Socket} {before after events : List Event}

namespace NotRecursive

theorem append (first : NotRecursive s before t) (second : NotRecursive t after u) : NotRecursive s (before ++ after) u where
  emittedReadyRead := second.emittedReadyRead.trans first.emittedReadyRead
  emittedBytesWritten := second.emittedBytesWritten.trans first.emittedBytesWritten
  readyRead inside e mem := by
    rcases List.mem_append.mp mem with early | late
    · exact first.readyRead inside e early
    · exact second.readyRead (first.emittedReadyRead.trans inside) e late
  bytesWritten inside e mem := by
    rcases List.mem_append.mp mem with early | late
    · exact first.bytesWritten inside e early
    · exact second.bytesWritten (first.emittedBytesWritten.trans inside) e late

theorem other (flags : (t.emittedReadyRead, t.emittedBytesWritten) = (s.emittedReadyRead, s.emittedBytesWritten))
    (others : ∀ e ∈ events, e.isReadyRead = false ∧ e.isBytesWritten = false) : NotRecursive s events t where
  emittedReadyRead := congrArg Prod.fst flags
  emittedBytesWritten := congrArg Prod.snd flags
  readyRead _ e mem := (others e mem).1
  bytesWritten _ e mem := (others e mem).2

theorem move (h : Move s t) : Extends Socket.trace NotRecursive s t := by
  cases h with
  | silent same =>
    have trace : t.trace = s.trace := congrArg PublicView.trace same
    refine ⟨[], by rw [trace, List.append_nil], other ?_ (by simp)⟩
    exact congrArg (fun v : PublicView => (v.emittedReadyRead, v.emittedBytesWritten)) same
  | passed e passing =>
    refine ⟨[e], rfl, other rfl fun e' mem => ?_⟩
    rw [List.mem_singleton.mp mem]
    cases e <;> first | exact ⟨rfl, rfl⟩ | cases passing
  | queued data _ => exact ⟨[.queued data], rfl, other rfl (by simp [Event.isReadyRead, Event.isBytesWritten])⟩
  | failed env _ _ => exact ⟨_, rfl, other rfl (by simp [Event.isReadyRead, Event.isBytesWritten])⟩
  | sent env n _ _ _ _ =>
    refine ⟨_, List.append_assoc .., other rfl fun e mem => ?_⟩
    rcases List.mem_append.mp mem with sent | freed
    · rcases List.mem_cons.mp sent with rfl | call
      · exact ⟨rfl, rfl⟩
      · obtain ⟨call, _, rfl⟩ := List.mem_map.mp call
        exact ⟨rfl, rfl⟩
    · rw [List.mem_singleton.mp freed]
      exact ⟨rfl, rfl⟩
  | filled answers bytesToRead => exact ⟨_, rfl, other rfl (by simp [Event.isReadyRead, Event.isBytesWritten])⟩
  | errored info =>
    exact ⟨[.signal (.error info.errorCode)], rfl, other rfl (by simp [Event.isReadyRead, Event.isBytesWritten])⟩
  | stored option sig differs changed =>
    refine ⟨[.signal sig], rfl, other rfl fun e mem => ?_⟩
    rw [List.mem_singleton.mp mem]
    cases option <;> cases changed <;> exact ⟨rfl, rfl⟩
  | released option => exact ⟨[], (List.append_nil _).symm, other rfl (by simp)⟩
  | detached => exact ⟨[], (List.append_nil _).symm, other rfl (by simp)⟩

end NotRecursive

theorem notRecursive : StatesKeep (Extends Socket.trace NotRecursive) where
  trans := Extends.trans NotRecursive.append
  move := NotRecursive.move
  reading outside told := by
    obtain ⟨events, trace, nested⟩ := told
    refine ⟨.signal .readyRead :: events, trace.trans (List.append_assoc ..), outside.symm, nested.emittedBytesWritten,
      fun inside => ?_, fun inside e mem => ?_⟩
    · rw [outside] at inside
      cases inside
    · rcases List.mem_cons.mp mem with rfl | later
      · rfl
      · exact nested.bytesWritten inside e later
  reporting _ outside told := by
    obtain ⟨events, trace, nested⟩ := told
    refine ⟨.signal (.bytesWritten _) :: events, trace.trans (List.append_assoc ..), nested.emittedReadyRead, outside.symm,
      fun inside e mem => ?_, fun inside => ?_⟩
    · rcases List.mem_cons.mp mem with rfl | later
      · rfl
      · exact nested.readyRead inside e later
    · rw [outside] at inside
      cases inside
  started _ _ _ _ := ⟨[.signal (.stateChanged .connectingState)], rfl,
    .other rfl (by simp [Event.isReadyRead, Event.isBytesWritten])⟩
  entered _ _ := ⟨[.signal (.stateChanged _)], rfl, .other rfl (by simp [Event.isReadyRead, Event.isBytesWritten])⟩

/-- The slots of `readyRead` and `bytesWritten` are run with the flag of their signal set, and from inside them neither
signal is emitted again, whatever they call; every call leaves both flags as it found them. -/
theorem signals_not_recursive :
    (∀ (slot : Slot) (c : PublicCall) (s : Socket),
      CallRun.RunsAt (fun slot c s => s.execPublic slot c) slot c s Signal.Flagged) ∧
    ∀ (script : PublicScript) (s : Socket),
      ∃ events, (script.exec s).trace = s.trace ++ events ∧ NotRecursive s events (script.exec s) :=
  ⟨runsAt_flagged, fun script s => notRecursive.script script s⟩

namespace ReportsWithin

theorem create (p : Protocol) : ReportsWithin (.create p) :=
  ⟨Int.le_refl 0, Int.le_refl 0, Int.le_refl 0, eachAfter_nil⟩

/-- Events that neither report nor let go of anything; the kernel may take what it likes. -/
theorem logged (h : ReportsWithin s) (trace : t.trace = s.trace ++ events)
    (flags : (t.pendingBytesWritten, t.emittedBytesWritten) = (s.pendingBytesWritten, s.emittedBytesWritten))
    (others : ∀ e ∈ events, e.emittedBytes = 0 ∧ e.freedBytes = 0 ∧ 0 ≤ e.takenBytes ∧ e.isBytesWritten = false) :
    ReportsWithin t := by
  obtain ⟨pending, flag⟩ := Prod.mk.inj flags
  have none : total Event.emittedBytes events = 0 ∧ total Event.freedBytes events = 0 ∧
      0 ≤ total Event.takenBytes events := by
    clear trace
    induction events with
    | nil => simp
    | cons e events ih =>
      obtain ⟨emitted, freed, taken, _⟩ := others e (by simp)
      obtain ⟨_, _, _⟩ := ih fun e mem => others e (by simp [mem])
      simp only [total_cons]
      omega
  have within := h.reported
  have freed := h.freed
  rw [← flag, ← pending] at within
  refine ⟨pending ▸ h.pending, ?_, ?_, ?_⟩
  · simp only [Socket.emittedTotal, Socket.freedTotal, trace, total_append] at within ⊢
    omega
  · simp only [Socket.freedTotal, trace, total_append] at freed ⊢
    omega
  · rw [trace]
    refine h.each.append_all fun e mem _ => ?_
    have other := (others e mem).2.2.2
    unfold ReportsTaken
    split
    · cases other
    · trivial

theorem told (h : ReportsWithin s) (sig : Signal) (trace : t.trace = s.trace ++ [.signal sig])
    (flags : (t.pendingBytesWritten, t.emittedBytesWritten) = (s.pendingBytesWritten, s.emittedBytesWritten))
    (other : (Event.signal sig).isBytesWritten = false) : ReportsWithin t := by
  refine h.logged trace flags fun e mem => ?_
  obtain rfl := List.mem_singleton.mp mem
  cases sig with
  | bytesWritten bytes => cases other
  | _ => exact ⟨rfl, rfl, Int.le_refl 0, rfl⟩

theorem takenBytes_calls (descriptor : Int) (calls : List WriteCall) :
    total Event.takenBytes (calls.map (Event.write descriptor)) = (acceptedBytes calls).length := by
  induction calls with
  | nil => rfl
  | cons call calls ih => simp [ih, Event.takenBytes]

theorem failed (h : ReportsWithin s) (env : WriteEnv) : ReportsWithin (s.sendBlock env) := by
  refine h.logged rfl rfl fun e mem => ?_
  rcases List.mem_cons.mp mem with rfl | call
  · exact ⟨rfl, rfl, Int.le_refl 0, rfl⟩
  · obtain ⟨call, _, rfl⟩ := List.mem_map.mp call
    exact ⟨rfl, rfl, Int.natCast_nonneg _, rfl⟩

theorem sent (h : ReportsWithin s) {env : WriteEnv} {n : Nat} (inside : n ≤ (s.nextDataBlock env).length)
    (taken : acceptedBytes (s.writeResult env).calls = (s.nextDataBlock env).take n) :
    ReportsWithin ((s.sendBlock env).freeWritten n) := by
  obtain ⟨emitted, freed, -⟩ := sendBlock_totals env s
  have took : total Event.takenBytes (s.sendBlock env).trace = total Event.takenBytes s.trace + n := by
    have length : (acceptedBytes (s.writeResult env).calls).length = n := by
      rw [taken, List.length_take_of_le inside]
    rw [← length, ← takenBytes_calls s.descriptor]
    simp [Socket.sendBlock, Socket.setErrno, Event.takenBytes]
  have within := h.reported
  have sofar := h.freed
  have pending : ((s.sendBlock env).freeWritten n).pendingBytesWritten = s.pendingBytesWritten + n := rfl
  have flag : ((s.sendBlock env).freeWritten n).emittedBytesWritten = s.emittedBytesWritten := rfl
  have emits : ((s.sendBlock env).freeWritten n).emittedTotal = s.emittedTotal := by
    rw [← emitted]
    simp [Socket.emittedTotal, Socket.freeWritten, Socket.log, Event.emittedBytes]
  have frees : ((s.sendBlock env).freeWritten n).freedTotal = s.freedTotal + n := by
    rw [← freed]
    simp [Socket.freedTotal, Socket.freeWritten, Socket.log, Event.freedBytes]
  refine ⟨?_, ?_, ?_, (eachAfter_concat _ _).mpr ⟨(h.failed env).each, trivial⟩⟩
  · have := h.pending
    omega
  · rw [emits, frees, pending, flag]
    split
    next busy =>
      rw [if_pos busy] at within
      omega
    next idle =>
      rw [if_neg idle] at within
      omega
  · have all : total Event.takenBytes ((s.sendBlock env).freeWritten n).trace =
        total Event.takenBytes (s.sendBlock env).trace := by
      simp [Socket.freeWritten, Socket.log, Event.takenBytes]
    rw [frees, all, took]
    omega

theorem move (m : Move s t) (h : ReportsWithin s) : ReportsWithin t := by
  cases m with
  | silent same =>
    have trace : t.trace = s.trace := congrArg PublicView.trace same
    refine h.logged (by rw [trace, List.append_nil]) ?_ (by simp)
    exact congrArg (fun v : PublicView => (v.pendingBytesWritten, v.emittedBytesWritten)) same
  | passed e passing =>
    refine h.logged rfl rfl fun e' mem => ?_
    rw [List.mem_singleton.mp mem]
    cases e <;> first | exact ⟨rfl, rfl, Int.le_refl 0, rfl⟩ | cases passing
  | queued data _ =>
    exact h.logged rfl rfl (by simp [Event.emittedBytes, Event.freedBytes, Event.takenBytes, Event.isBytesWritten])
  | failed env _ _ => exact h.failed env
  | sent env n _ _ inside taken => exact h.sent inside taken
  | filled answers bytesToRead =>
    refine h.logged rfl rfl ?_
    simp [Event.emittedBytes, Event.freedBytes, Event.takenBytes, Event.isBytesWritten]
  | errored info =>
    refine h.logged rfl rfl ?_
    simp [Event.emittedBytes, Event.freedBytes, Event.takenBytes, Event.isBytesWritten]
  | stored option sig differs changed =>
    refine h.logged rfl rfl fun e mem => ?_
    rw [List.mem_singleton.mp mem]
    cases option <;> cases changed <;> exact ⟨rfl, rfl, Int.le_refl 0, rfl⟩
  | released option => exact h.logged (List.append_nil _).symm rfl (by simp)
  | detached =>
    refine ⟨Int.le_refl 0, ?_, h.freed, h.each⟩
    have within := h.reported
    have := h.pending
    simp only [Socket.emittedTotal, Socket.freedTotal, ite_self] at within ⊢
    split at within <;> omega

/-- A report is told of before it is taken off what is pending. -/
theorem reporting (h : ReportsWithin s) (some : 0 < s.pendingBytesWritten) (outside : s.emittedBytesWritten = false) :
    ReportsWithin (({ s with emittedBytesWritten := true }).log (.signal (.bytesWritten s.pendingBytesWritten))) := by
  have within := h.reported
  have freed := h.freed
  rw [outside, if_neg Bool.false_ne_true] at within
  have emits : total Event.emittedBytes (s.trace ++ [.signal (.bytesWritten s.pendingBytesWritten)]) =
      s.emittedTotal + s.pendingBytesWritten := by
    simp [Socket.emittedTotal, Event.emittedBytes]
  have frees : total Event.freedBytes (s.trace ++ [.signal (.bytesWritten s.pendingBytesWritten)]) = s.freedTotal := by
    simp [Socket.freedTotal, Event.freedBytes]
  have takes : total Event.takenBytes (s.trace ++ [.signal (.bytesWritten s.pendingBytesWritten)]) =
      total Event.takenBytes s.trace := by
    simp [Event.takenBytes]
  refine ⟨h.pending, ?_, ?_, (eachAfter_concat _ _).mpr ⟨h.each, some, ?_⟩⟩
  · simp only [Socket.emittedTotal, Socket.freedTotal, Socket.log, emits, frees, if_true, Int.add_zero]
    exact within
  · simp only [Socket.freedTotal, Socket.log, frees, takes]
    exact freed
  · exact Int.le_trans within freed

theorem reported_reset (h : ReportsWithin s) :
    ReportsWithin { s with pendingBytesWritten := 0, emittedBytesWritten := false } := by
  refine ⟨Int.le_refl 0, ?_, h.freed, h.each⟩
  have within := h.reported
  have := h.pending
  simp only [Socket.emittedTotal, Socket.freedTotal, Bool.false_eq_true, if_false] at within ⊢
  split at within <;> omega

end ReportsWithin

theorem reportsWithin : StatesKeep fun s t => ReportsWithin s → ReportsWithin t where
  trans first second h := second (first h)
  move := ReportsWithin.move
  reading _ told h := by
    have nested := told (h.told .readyRead rfl rfl rfl)
    exact nested.logged (List.append_nil _).symm rfl (by simp)
  reporting some outside told h := (told (h.reporting some outside)).reported_reset
  started _ _ _ _ h := h.told (.stateChanged .connectingState) rfl rfl rfl
  entered _ _ h := h.told (.stateChanged _) rfl rfl rfl

/-- Whatever is called on an object of either class, and in answer to its signals: an amount is only reported when the
kernel has taken that many bytes more than were reported before, and what is still to be reported stays within that. -/
theorem bytesWritten_within_taken (script : PublicScript) (protocol : Protocol) :
    let s := script.exec (.create protocol)
    EachAfter ReportsTaken s.trace ∧ 0 ≤ s.pendingBytesWritten ∧
      s.emittedTotal + s.pendingBytesWritten ≤ total Event.takenBytes s.trace := by
  intro s
  have reached : ReportsWithin s := reportsWithin.script script _ (.create protocol)
  obtain ⟨_, _, nested⟩ := notRecursive.script script (.create protocol)
  have outside : s.emittedBytesWritten = false := nested.emittedBytesWritten
  have within := reached.reported
  rw [outside, if_neg Bool.false_ne_true] at within
  exact ⟨reached.each, reached.pending, Int.le_trans within reached.freed⟩

end CanSocket
