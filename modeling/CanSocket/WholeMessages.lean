import CanSocket.History
import CanSocket.ReadWakeup
import CanSocket.ReceiveAll
import Mathlib.Data.List.TakeDrop

namespace CanSocket

open History StreamCodec

/-- The message a `::read` was answered with, whole. -/
def ReadCall.message (call : ReadCall) : List UInt8 :=
  match call.answer with
  | .got bytes => bytes
  | .fail _ => []

/-- The part of it that found room in the space. -/
def ReadCall.stored (call : ReadCall) : List UInt8 := call.message.take call.length

def Event.message : Event → List UInt8
  | .read _ _ call => call.message
  | _ => []

def Event.stored : Event → List UInt8
  | .read _ _ call => call.stored
  | _ => []

/-- All messages the kernel has handed out, one after the other. -/
def receivedMessages (trace : List Event) : List UInt8 := trace.flatMap Event.message
def storedBytes (trace : List Event) : List UInt8 := trace.flatMap Event.stored

/-- The room for a message below a limit, 0 being none, when so many bytes are buffered. -/
def roomBelow (limit buffered : Int) : Int :=
  if limit ≠ 0 ∧ limit - buffered < 4096 then limit - buffered else 4096

/-- A message handed out has room after what was handed out before it and not yet read. -/
def FitsAfter (limit : Int) (before : List Event) (e : Event) : Prop :=
  match e with
  | .read _ _ call => ∀ bytes, call.answer = .got bytes →
    bytes.length ≤ roomBelow limit ((receivedMessages before).length - (userBytes before).length)
  | _ => True

def MessagesFit (limit : Int) (trace : List Event) : Prop := EachAfter (FitsAfter limit) trace

/-- A `::read` is given the room below the limit, and one with no room fails. -/
def SpaceAfter (limit : Int) (before : List Event) (e : Event) : Prop :=
  match e with
  | .read _ space call =>
    space = roomBelow limit ((storedBytes before).length - (userBytes before).length) ∧
      ((∃ errno, call.answer = .fail errno) ∨ 0 ≤ space ∧ call.length = space.toNat)
  | _ => True

/-- All that counts of the past is what was stored and what the user read. -/
theorem spaceAfter_congr {limit : Int} {before after : List Event} {e : Event}
    (same : (storedBytes before, userBytes before) = (storedBytes after, userBytes after))
    (h : SpaceAfter limit before e) : SpaceAfter limit after e := by
  obtain ⟨stored, user⟩ := Prod.mk.inj same
  cases e with
  | read descriptor space call => exact ⟨by rw [h.1, stored, user], h.2⟩
  | _ => trivial

theorem Event.stored_length (e : Event) : e.stored.length ≤ e.message.length := by
  cases e with
  | read _ _ call => exact List.length_take_le' _ _
  | _ => exact Nat.le_refl _

theorem storedBytes_length (trace : List Event) :
    (storedBytes trace).length ≤ (receivedMessages trace).length := by
  induction trace with
  | nil => exact Nat.le_refl _
  | cons e trace ih =>
    have here := e.stored_length
    simp only [storedBytes, receivedMessages, List.flatMap_cons, List.length_append] at ih ⊢
    omega

/-- As long as nothing has been cut off, one more event cuts nothing off if its message has room. -/
theorem stored_eq_iff {limit : Int} {before : List Event} {e : Event} (space : SpaceAfter limit before e)
    (whole : storedBytes before = receivedMessages before) : e.stored = e.message ↔ FitsAfter limit before e := by
  cases e with
  | read descriptor space call =>
    obtain ⟨room, length⟩ := space
    rw [whole] at room
    unfold FitsAfter
    change call.message.take call.length = call.message ↔ _
    cases answer : call.answer with
    | fail errno => simp [ReadCall.message, answer]
    | got bytes =>
      have message : call.message = bytes := by simp [ReadCall.message, answer]
      obtain ⟨positive, length⟩ : 0 ≤ space ∧ call.length = space.toNat := by simpa [answer] using length
      rw [List.take_eq_self_iff, message, length]
      dsimp only
      rw [← room]
      constructor
      · intro short other eq
        cases answer.symm.trans eq
        omega
      · intro fits
        have := fits bytes answer
        omega
  | _ => exact iff_of_true rfl trivial

/-- Nothing is cut off if and only if every message handed out had room. -/
theorem storedBytes_eq_iff {limit : Int} {trace : List Event} (spaces : EachAfter (SpaceAfter limit) trace) :
    storedBytes trace = receivedMessages trace ↔ MessagesFit limit trace := by
  induction trace using List.reverseRecOn with
  | nil => simp [MessagesFit, storedBytes, receivedMessages]
  | append_singleton trace e ih =>
    obtain ⟨spaces, now⟩ := (eachAfter_concat trace e).mp spaces
    have stored : storedBytes (trace ++ [e]) = storedBytes trace ++ e.stored := by simp [storedBytes]
    have message : receivedMessages (trace ++ [e]) = receivedMessages trace ++ e.message := by
      simp [receivedMessages]
    have split : storedBytes trace ++ e.stored = receivedMessages trace ++ e.message ↔
        storedBytes trace = receivedMessages trace ∧ e.stored = e.message := by
      refine ⟨fun eq => List.append_inj eq ?_, fun ⟨before, here⟩ => by rw [before, here]⟩
      have total := congrArg List.length eq
      have shorter := storedBytes_length trace
      have short := e.stored_length
      simp only [List.length_append] at total
      omega
    rw [stored, message, split, MessagesFit, eachAfter_concat, ← MessagesFit, ← ih spaces]
    exact and_congr_right fun whole => stored_eq_iff now whole

/-- All calls of one `readFromSocket` but the last are interrupted, the last one stores what is read. -/
theorem isoTpReadFromSocket_calls (maxSize : Int) (answers : List ReadAnswer) :
    ∃ interrupted last, (isoTpReadFromSocket maxSize answers).calls = interrupted ++ [last] ∧
      (∀ call ∈ interrupted, ∃ e, call.answer = .fail e) ∧
      ((∃ e, last.answer = .fail e) ∨ 0 ≤ maxSize ∧ last.length = maxSize.toNat) ∧
      last.stored = (isoTpReadFromSocket maxSize answers).data ∧
      ((isoTpReadFromSocket maxSize answers).ret < 0 → (isoTpReadFromSocket maxSize answers).data = []) := by
  unfold isoTpReadFromSocket
  by_cases negative : maxSize < 0
  · rw [if_pos negative]
    exact ⟨[], _, rfl, nofun, Or.inl ⟨_, rfl⟩, List.take_nil, fun _ => rfl⟩
  · rw [if_neg negative]
    induction answers with
    | nil => exact ⟨[], _, rfl, nofun, Or.inl ⟨_, rfl⟩, List.take_nil, fun _ => rfl⟩
    | cons answer answers ih =>
      cases answer with
      | got bytes =>
        refine ⟨[], _, rfl, nofun, Or.inr ⟨by omega, rfl⟩, rfl, fun failed => ?_⟩
        simp [qtSafeRead] at failed
        omega
      | fail e =>
        unfold qtSafeRead
        split
        next =>
          obtain ⟨interrupted, last, calls, fails, length, stored, none⟩ := ih
          dsimp only
          rw [calls]
          refine ⟨⟨0, maxSize.toNat, .fail e⟩ :: interrupted, last, rfl, ?_, length, stored, none⟩
          intro call mem
          rcases List.mem_cons.mp mem with rfl | later
          · exact ⟨e, rfl⟩
          · exact fails call later
        next => exact ⟨[], _, rfl, nofun, Or.inl ⟨_, rfl⟩, List.take_nil, fun _ => rfl⟩

theorem storedBytes_filter (trace : List Event) :
    storedBytes (trace.filter Event.onReadSide) = storedBytes trace := by
  apply flatMap_filter
  intro e h
  cases e <;> first | rfl | cases h

/-- The read side of an ISO-TP socket with a limit: what was stored is what the user has got and
the buffer holds, and each `::read` was given the room there was. -/
structure ReadsRoom (f : CanIsoTpFields) (limit : Int) (s : Socket) : Prop where
  protocol : s.protocol = .isoTp f
  limited : s.readBufferMaxSize = limit
  account : userBytes s.trace ++ s.buffer = storedBytes s.trace
  spaces : EachAfter (SpaceAfter limit) s.trace

variable {f : CanIsoTpFields} {limit : Int}

theorem spaces_filter (trace : List Event) :
    EachAfter (SpaceAfter limit) (trace.filter Event.onReadSide) ↔ EachAfter (SpaceAfter limit) trace := by
  apply eachAfter_filter
  · intro before e off
    cases e <;> trivial
  · intro before e
    cases e <;> simp [SpaceAfter, storedBytes_filter, userBytes_filter]

theorem ReadsRoom.same {s t : Socket} (h : ReadsRoom f limit s) (same : t.readView = s.readView)
    (limits : t.readBufferMaxSize = s.readBufferMaxSize) : ReadsRoom f limit t := by
  have buffer : t.buffer = s.buffer := congrArg ReadView.buffer same
  have trace : t.trace.filter Event.onReadSide = s.trace.filter Event.onReadSide :=
    congrArg ReadView.trace same
  refine ⟨(congrArg ReadView.protocol same).trans h.protocol, limits.trans h.limited, ?_, ?_⟩
  · rw [← userBytes_filter, ← storedBytes_filter, trace, userBytes_filter, storedBytes_filter, buffer]
    exact h.account
  · rw [← spaces_filter, trace, spaces_filter]
    exact h.spaces

theorem ReadsRoom.taken {s : Socket} (h : ReadsRoom f limit s) (maxSize : Nat) :
    ReadsRoom f limit
      (({ s with buffer := s.buffer.drop maxSize }).log (.userRead (s.buffer.take maxSize))) := by
  refine ⟨h.protocol, h.limited, ?_, (eachAfter_concat _ _).mpr ⟨h.spaces, trivial⟩⟩
  have user : userBytes (s.trace ++ [.userRead (s.buffer.take maxSize)]) =
      userBytes s.trace ++ s.buffer.take maxSize := by
    simp [userBytes, Event.userBytes]
  have stored : storedBytes (s.trace ++ [.userRead (s.buffer.take maxSize)]) = storedBytes s.trace := by
    simp [storedBytes, Event.stored]
  have account := h.account
  simp only [Socket.log, user, stored, List.append_assoc, List.take_append_drop, account]

theorem ReadsRoom.read {s : Socket} (h : ReadsRoom f limit s) (maxSize : Nat) :
    ReadsRoom f limit (s.readDevice maxSize) := by
  have taken := h.taken maxSize
  unfold Socket.readDevice
  split
  next => exact h
  next =>
    dsimp only
    split
    next =>
      unfold Socket.readData
      split
      next => exact taken.same (Socket.readView_setRead true _) (Socket.limit_setRead true _)
      next => exact taken
    next => exact taken

/-- The `::read`s of one step, after which only what the last one stored is new. -/
theorem spaces_calls {trace : List Event} {descriptor space : Int} {interrupted : List ReadCall} {last : ReadCall}
    (spaces : EachAfter (SpaceAfter limit) trace)
    (room : space = roomBelow limit ((storedBytes trace).length - (userBytes trace).length))
    (fails : ∀ call ∈ interrupted, ∃ e, call.answer = .fail e)
    (length : (∃ e, last.answer = .fail e) ∨ 0 ≤ space ∧ last.length = space.toNat) :
    EachAfter (SpaceAfter limit) (trace ++ (interrupted ++ [last]).map (Event.read descriptor space)) ∧
      storedBytes (trace ++ (interrupted ++ [last]).map (Event.read descriptor space)) =
        storedBytes trace ++ last.stored ∧
      userBytes (trace ++ (interrupted ++ [last]).map (Event.read descriptor space)) = userBytes trace := by
  have final : SpaceAfter limit trace (.read descriptor space last) := ⟨room, length⟩
  have retried := spaces.append_still (fun before => (storedBytes before, userBytes before))
    (interrupted.map (Event.read descriptor space)) ?_ ?_ ?_
  · obtain ⟨stored, user⟩ := Prod.mk.inj retried.2
    rw [List.map_append, ← List.append_assoc]
    refine ⟨(eachAfter_concat _ _).mpr ⟨retried.1, spaceAfter_congr retried.2.symm final⟩, ?_, ?_⟩
    · rw [← stored]
      simp [storedBytes, Event.stored]
    · rw [← user]
      simp [userBytes, Event.userBytes]
  · exact fun _ _ _ => spaceAfter_congr
  · intro e mem before
    obtain ⟨call, called, rfl⟩ := List.mem_map.mp mem
    obtain ⟨errno, failed⟩ := fails call called
    simp [storedBytes, userBytes, Event.stored, Event.userBytes, ReadCall.stored, ReadCall.message, failed]
  · intro e mem
    obtain ⟨call, called, rfl⟩ := List.mem_map.mp mem
    exact ⟨room, Or.inl (fails call called)⟩

theorem ReadsRoom.room {s : Socket} (h : ReadsRoom f limit s) :
    s.roomToRead = roomBelow limit ((storedBytes s.trace).length - (userBytes s.trace).length) := by
  have buffered : (s.buffer.length : Int) = (storedBytes s.trace).length - (userBytes s.trace).length := by
    rw [← h.account, List.length_append]
    omega
  rw [← buffered, Socket.roomToRead, roomBelow, h.limited, h.protocol]
  rfl

/-- The state a receiving step of an ISO-TP socket goes on with. -/
theorem ReadsRoom.filled {s : Socket} (h : ReadsRoom f limit s) (answers : List ReadAnswer) :
    ReadsRoom f limit { s.fillSpace answers s.roomToRead with
      buffer := s.buffer ++ (s.protocol.readFromSocket s.roomToRead (s.readAnswers answers)).data } := by
  have calls := isoTpReadFromSocket_calls s.roomToRead (s.readAnswers answers)
  have reads : s.protocol.readFromSocket s.roomToRead (s.readAnswers answers) =
      isoTpReadFromSocket s.roomToRead (s.readAnswers answers) := by
    rw [h.protocol]
    rfl
  rw [← reads] at calls
  obtain ⟨interrupted, last, calls, fails, length, stored, _⟩ := calls
  have begun : EachAfter (SpaceAfter limit)
      (s.trace ++ [.readFromSocket s.roomToRead (s.readAnswers answers)]) :=
    (eachAfter_concat _ _).mpr ⟨h.spaces, trivial⟩
  have before : storedBytes (s.trace ++ [.readFromSocket s.roomToRead (s.readAnswers answers)]) =
      storedBytes s.trace := by simp [storedBytes, Event.stored]
  have user : userBytes (s.trace ++ [.readFromSocket s.roomToRead (s.readAnswers answers)]) =
      userBytes s.trace := by simp [userBytes, Event.userBytes]
  obtain ⟨spaces, all, same⟩ := @spaces_calls limit _ s.descriptor s.roomToRead interrupted last begun
    (by rw [before, user, h.room]) fails length
  have trace : (s.fillSpace answers s.roomToRead).trace =
      s.trace ++ [.readFromSocket s.roomToRead (s.readAnswers answers)] ++
        (interrupted ++ [last]).map (Event.read s.descriptor s.roomToRead) := by
    rw [← calls, List.append_assoc]
    rfl
  refine ⟨h.protocol, h.limited, ?_, ?_⟩
  · dsimp only
    rw [trace, all, same, before, user, stored, ← h.account, List.append_assoc]
  · dsimp only
    rwa [trace]

variable {slot : Slot}

theorem ReadsRoom.emitted {s : Socket} (h : ReadsRoom f limit s)
    (slots : ∀ sig s, ReadsRoom f limit s → ReadsRoom f limit (slot sig s)) (newBytes : Int) :
    ReadsRoom f limit (s.emitReadyRead slot newBytes) := by
  unfold Socket.emitReadyRead
  split
  next =>
    have marked : ReadsRoom f limit (({ s with emittedReadyRead := true }).log (.signal .readyRead)) :=
      h.same (Socket.readView_log rfl _) rfl
    exact (slots .readyRead _ marked).same rfl rfl
  next => exact h

theorem ReadsRoom.notified {s : Socket} (h : ReadsRoom f limit s)
    (slots : ∀ sig s, ReadsRoom f limit s → ReadsRoom f limit (slot sig s))
    (quiet : ∀ e s, slot (.error e) s = s) (answers : List ReadAnswer) :
    ReadsRoom f limit (s.readNotification slot answers).2 := by
  rcases s.readNotification_cases slot answers with ⟨_, eq⟩ | ⟨_, eq⟩
  · rw [eq]
    exact h.same (s.readView_setRead false) (s.limit_setRead false)
  · have filled := h.filled answers
    rw [eq]
    rcases Socket.receive_limited quiet answers s.roomToRead s with
      ⟨failed, view, limited⟩ | ⟨_, t, newBytes, view, limited, eq⟩
    · have none : (s.protocol.readFromSocket s.roomToRead (s.readAnswers answers)).data = [] := by
        rw [h.protocol] at failed ⊢
        obtain ⟨_, _, _, _, _, _, none⟩ := isoTpReadFromSocket_calls s.roomToRead (s.readAnswers answers)
        exact none failed
      rw [none, List.append_nil] at filled
      exact filled.same view limited
    · rw [eq]
      exact (filled.same view limited).emitted slots newBytes

/-- The calls the bytes received can depend on: read notifications, and reads of the user. -/
def Call.OnReception : Call → Prop
  | .readNotification _ => True
  | .read _ => True
  | _ => False

def KeepsRoom (f : CanIsoTpFields) (limit : Int) (s t : Socket) : Prop :=
  ReadsRoom f limit s → ReadsRoom f limit t

theorem script_keepsRoom {script : Script} (on : script.All Call.OnReception Signal.IsError) (s : Socket) :
    KeepsRoom f limit s (script.exec s) := by
  refine CallRun.Script.run_rel (fun _ h => h) (fun first second h => second (first h)) ?_ on s
  intro slot slots quiet c on s h
  cases c with
  | readNotification answers => exact h.notified slots (fun e => quiet (.error e) ⟨e, rfl⟩) answers
  | read maxSize => exact h.read maxSize
  | _ => exact on.elim

/-- In every run of read notifications and user reads on a connected ISO-TP socket, the user also
reading from the slots of `readyRead`, the bytes read followed by the buffer are the messages the
kernel handed out if and only if every message had room below the limit when its turn came. -/
theorem received_whole_iff {script : Script} {s : Socket} (start : JustConnected s) (isoTp : s.protocol = .isoTp f)
    (on : script.All Call.OnReception Signal.IsError) :
    userBytes (script.exec s).trace ++ (script.exec s).buffer = receivedMessages (script.exec s).trace ↔
      MessagesFit s.readBufferMaxSize (script.exec s).trace := by
  have begins : ReadsRoom f s.readBufferMaxSize s := by
    refine ⟨isoTp, rfl, ?_, ?_⟩
    · rw [start.trace, start.buffer]
      rfl
    · rw [start.trace]
      exact eachAfter_nil
  have reached := script_keepsRoom on s begins
  rw [reached.account]
  exact storedBytes_eq_iff reached.spaces

theorem received_whole_iff_nested :
    let s := Script.exec (.call (.readNotification [.got [1, 2, 3, 4]])
        (fun _ sig => if sig = .readyRead then .ofList [.read 3] else .done)
        (.ofList [.readNotification [.got [5, 6, 7, 8]], .read 5]))
      { Socket.connected (.isoTp (.initial 50000)) 3 with readBufferMaxSize := 6 }
    userBytes s.trace ++ s.buffer = receivedMessages s.trace ↔ MessagesFit 6 s.trace := by
  refine received_whole_iff ⟨rfl, rfl, rfl, rfl, rfl, rfl, rfl, rfl, rfl, rfl⟩ rfl ⟨trivial, ?_, ?_⟩
  · intro _ sig
    refine ⟨?_, fun ⟨e, error⟩ => by simp [error]⟩
    dsimp only
    split
    next => exact CallRun.Script.all_ofList (by simp [Call.OnReception])
    next => trivial
  · exact CallRun.Script.all_ofList (by simp [Call.OnReception])

/-- The second message is read into the two bytes left below the limit. -/
theorem received_whole_fails :
    let s := Script.exec (.ofList [.readNotification [.got [1, 2, 3, 4]], .readNotification [.got [5, 6, 7, 8]]])
      { Socket.connected (.isoTp (.initial 50000)) 3 with readBufferMaxSize := 6 }
    receivedMessages s.trace = [1, 2, 3, 4, 5, 6, 7, 8] ∧
      userBytes s.trace ++ s.buffer = [1, 2, 3, 4, 5, 6] := by
  decide

end CanSocket
