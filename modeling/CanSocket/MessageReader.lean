import CanSocket.FrameReader
import CanSocket.WaitLoops
import CanSocket.WholeMessages

namespace CanSocket

open TurnLoop

namespace Socket

/-- The reads of `QIODevice::readAll` on a sequential device, up to one that gets nothing. -/
def readPieces (piece : Nat) : Nat → Socket → List UInt8 × Socket
  | 0, s => ([], s)
  | fuel + 1, s =>
    let (data, s) := s.readBytes piece
    if data = [] then ([], s)
    else
      let (rest, s) := readPieces piece fuel s
      (data ++ rest, s)

/-- Every read but the last takes a byte at least. -/
def readAll (piece : Nat) (s : Socket) : List UInt8 × Socket := s.readPieces piece (s.buffer.length + 1)

end Socket

def readyReads (trace : List Event) : Nat := trace.countP fun e => e = .signal .readyRead

/-- The example's reader, whose slot the event loop calls once for each `readyRead` posted to it, and the lines it has
written. -/
structure CanIsoTpReader where
  socket : Socket
  posted : Nat := 0
  lines : List (List UInt8) := []

/-- What happens in the application: something is called on the socket, or the event loop comes to a posted `readyRead`. -/
inductive ReaderStep
  | call (c : Call)
  | handleReadyRead

/-- `readAll` reads in pieces of a size that `QIODevice` decides. -/
def ReaderStep.exec (piece : Nat) (step : ReaderStep) (r : CanIsoTpReader) : CanIsoTpReader :=
  match step with
  | .call c =>
    let t := r.socket.step c
    { r with socket := t, posted := r.posted + (readyReads t.trace - readyReads r.socket.trace) }
  | .handleReadyRead =>
    if r.posted = 0 then r
    else
      let (data, t) := r.socket.readAll piece
      { socket := t, posted := r.posted - 1, lines := r.lines ++ [data] }

/-- Nobody else reads from the connection, and it is not closed. -/
def ReaderStep.OnConnection : ReaderStep → Prop
  | .call c => c.OnConnection ∧ ∀ maxSize, c ≠ .read maxSize
  | .handleReadyRead => True

/-- A message the kernel handed out, as far as there was room for it. -/
def Event.storedMessage : Event → Option (List UInt8)
  | .read _ _ ⟨_, length, .got bytes⟩ => some (bytes.take length)
  | _ => none

def storedMessages (trace : List Event) : List (List UInt8) := trace.filterMap Event.storedMessage

/-- The messages are written in lines, each whole and in one line, but for the last ones, which are still buffered. -/
def WrittenInLines (messages lines : List (List UInt8)) (buffer : List UInt8) : Prop :=
  ∃ (groups : List (List (List UInt8))) (rest : List (List UInt8)),
    lines = groups.map List.flatten ∧ messages = groups.flatten ++ rest ∧ buffer = rest.flatten

/-- What is written are messages as they were stored, and what is still buffered will be written. -/
structure ShowsMessages (f : CanIsoTpFields) (r : CanIsoTpReader) : Prop where
  protocol : r.socket.protocol = .isoTp f
  readable : r.socket.openMode.readOnly = true
  outside : r.socket.emittedReadyRead = false
  lines : WrittenInLines (storedMessages r.socket.trace) r.lines r.socket.buffer
  posted : r.socket.buffer ≠ [] → 0 < r.posted

@[simp] theorem storedMessages_append (before after : List Event) :
    storedMessages (before ++ after) = storedMessages before ++ storedMessages after := List.filterMap_append

theorem storedMessages_flatten (trace : List Event) : (storedMessages trace).flatten = storedBytes trace := by
  induction trace with
  | nil => rfl
  | cons e trace ih =>
    have here : (e.storedMessage.toList).flatten = e.stored := by
      unfold Event.storedMessage Event.stored ReadCall.stored ReadCall.message
      cases e with
      | read _ _ call =>
        obtain ⟨_, _, answer⟩ := call
        cases answer <;> simp
      | _ => rfl
    rw [storedBytes, List.flatMap_cons, ← storedBytes, ← ih, ← here]
    unfold storedMessages
    cases message : e.storedMessage with
    | none => simp [message]
    | some message' => simp [message]

namespace Socket

theorem readPieces_serves {piece : Nat} (positive : 0 < piece) {s : Socket} (readable : s.openMode.readOnly = true)
    {fuel : Nat} (enough : s.buffer.length < fuel) : Serves s (s.readPieces piece fuel) (s.buffer, []) := by
  induction fuel generalizing s with
  | zero => omega
  | succ fuel ih =>
    obtain ⟨value, buffer, reads⟩ := readBytes_serves readable piece
    rw [readPieces]
    generalize s.readBytes piece = r at value buffer reads
    obtain ⟨data, t⟩ := r
    dsimp only at value buffer reads ⊢
    by_cases none : data = []
    · have empty : s.buffer = [] := by
        rw [value, List.take_eq_nil_iff] at none
        exact none.resolve_left (Nat.ne_of_gt positive)
      rw [if_pos none]
      exact ⟨empty.symm, by rw [buffer, empty, List.drop_nil], reads⟩
    · have some : 0 < s.buffer.length := by
        rw [value] at none
        exact List.length_pos_iff.mpr fun empty => none (by rw [empty, List.take_nil])
      have rest := ih (reads.readable readable) (by rw [buffer, List.length_drop]; omega)
      rw [if_neg none]
      refine ⟨?_, rest.buffer, reads.trans rest.reads⟩
      rw [rest.value, value, buffer, List.take_append_drop]

theorem readAll_serves {piece : Nat} (positive : 0 < piece) {s : Socket} (readable : s.openMode.readOnly = true) :
    Serves s (s.readAll piece) (s.buffer, []) :=
  readPieces_serves positive readable (Nat.lt_succ_self _)

theorem readDevice_stored (maxSize : Nat) (s : Socket) : (s.readDevice maxSize).protocol = s.protocol ∧
    storedMessages (s.readDevice maxSize).trace = storedMessages s.trace := by
  have taken : ∀ buffer, storedMessages (({ s with buffer := buffer } : Socket).log
      (.userRead (s.buffer.take maxSize))).trace = storedMessages s.trace := by
    intro buffer
    simp [log, storedMessages, Event.storedMessage]
  unfold readDevice readData
  split
  next => exact ⟨rfl, rfl⟩
  next =>
    dsimp only
    split
    next =>
      split
      next =>
        obtain ⟨made, eq⟩ := setRead_eq true
          (({ s with buffer := s.buffer.drop maxSize } : Socket).log (.userRead (s.buffer.take maxSize)))
        rw [eq]
        exact ⟨rfl, taken _⟩
      next => exact ⟨rfl, taken _⟩
    next => exact ⟨rfl, taken _⟩

end Socket

theorem ReadsOnly.stored {s t : Socket} (reads : ReadsOnly s t) :
    t.protocol = s.protocol ∧ storedMessages t.trace = storedMessages s.trace := by
  refine reads.keeps (P := fun t => t.protocol = s.protocol ∧ storedMessages t.trace = storedMessages s.trace) ?_ ⟨rfl, rfl⟩
  rintro n t ⟨protocol, stored⟩
  obtain ⟨protocol', stored'⟩ := t.readDevice_stored n
  exact ⟨protocol'.trans protocol, stored'.trans stored⟩

/-- Between the two states nothing was read from the buffer, and what was stored was told of. -/
structure Gathers (f : CanIsoTpFields) (s t : Socket) : Prop where
  link : t.linkView = s.linkView
  protocol : t.protocol = s.protocol
  gathered : s.protocol = .isoTp f → s.emittedReadyRead = false → ∃ events, t.trace = s.trace ++ events ∧
    t.buffer = s.buffer ++ (storedMessages events).flatten ∧
      ((storedMessages events).flatten ≠ [] → 0 < readyReads events)

namespace Gathers

variable {f : CanIsoTpFields} {s t u : Socket}

theorem trans (first : Gathers f s t) (second : Gathers f t u) : Gathers f s u where
  link := second.link.trans first.link
  protocol := second.protocol.trans first.protocol
  gathered isoTp outside := by
    obtain ⟨before, trace, buffer, told⟩ := first.gathered isoTp outside
    obtain ⟨after, trace', buffer', told'⟩ := second.gathered (first.protocol.trans isoTp)
      ((congrArg LinkView.emittedReadyRead first.link).trans outside)
    refine ⟨before ++ after, by rw [trace', trace, List.append_assoc], ?_, fun some => ?_⟩
    · rw [buffer', buffer, storedMessages_append, List.flatten_append, List.append_assoc]
    · rw [storedMessages_append, List.flatten_append] at some
      rw [readyReads, List.countP_append]
      by_cases none : (storedMessages before).flatten = []
      · have := told' (by simpa [none] using some)
        unfold readyReads at this
        omega
      · have := told none
        unfold readyReads at this
        omega

/-- What does not concern the read side. -/
theorem still {events : List Event} (link : t.linkView = s.linkView) (protocol : t.protocol = s.protocol)
    (buffer : t.buffer = s.buffer) (trace : t.trace = s.trace ++ events)
    (none : ∀ e ∈ events, e.storedMessage = none) : Gathers f s t where
  link := link
  protocol := protocol
  gathered _ _ := by
    have stored : storedMessages events = [] := List.filterMap_eq_nil_iff.mpr none
    exact ⟨events, trace, by simp [stored, buffer], by simp [stored]⟩

theorem refl (s : Socket) : Gathers f s s := still rfl rfl rfl (List.append_nil _).symm (by simp)

theorem select (checkRead checkWrite : Bool) (msecs : Int32) (answer : SelectAnswer) (s : Socket) :
    Gathers f s (s.waitForReadOrWrite Slot.idle checkRead checkWrite msecs answer).2 := by
  have link := Socket.linkView_of_downView (s.downView_waitForReadOrWrite checkRead checkWrite msecs answer)
  cases answer with
  | ready read write => exact still link rfl rfl rfl (by simp [Event.storedMessage])
  | timeout => exact still link rfl rfl (List.append_assoc _ _ _) (by simp [Event.storedMessage])
  | fail e => exact still link rfl rfl (List.append_assoc _ _ _) (by simp [Event.storedMessage])

theorem write (data : List UInt8) (s : Socket) : Gathers f s (s.writeDevice data) := by
  have link := s.linkView_writeDevice data
  generalize queued : s.writeDevice data = t at link ⊢
  unfold Socket.writeDevice Socket.writeData at queued
  split at queued
  next => exact queued ▸ refl s
  next =>
    dsimp only at queued
    split at queued
    next =>
      obtain ⟨made, eq⟩ := Socket.setWrite_eq true
        (({ s with writeBuffer := s.writeBuffer ++ data } : Socket).log (.queued data))
      rw [eq] at queued
      subst queued
      exact still link rfl rfl rfl (by simp [Event.storedMessage])
    next =>
      subst queued
      exact still link rfl rfl rfl (by simp [Event.storedMessage])

theorem limit (size : Int) (s : Socket) : Gathers f s (s.setReadBufferSize size) := by
  have link := Socket.linkView_of_downView (s.downView_setReadBufferSize size)
  generalize limited : s.setReadBufferSize size = t at link ⊢
  unfold Socket.setReadBufferSize at limited
  split at limited
  next => exact limited ▸ refl s
  next =>
    subst limited
    exact still link rfl rfl (List.append_nil _).symm (by simp)

/-- The messages of a read step are what it stores. -/
theorem readEvents_stored {s : Socket} (isoTp : s.protocol = .isoTp f) (answers : List ReadAnswer) :
    (storedMessages (s.readEvents answers)).flatten = (s.readResult answers).data ∧
      ((s.readResult answers).ret < 0 → (s.readResult answers).data = []) := by
  have reads : s.readResult answers = isoTpReadFromSocket s.roomToRead (s.readAnswers answers) := by
    rw [Socket.readResult, isoTp]
    rfl
  have result := isoTpReadFromSocket_calls s.roomToRead (s.readAnswers answers)
  rw [← reads] at result
  obtain ⟨interrupted, last, calls, fails, _, stored, nothing⟩ := result
  have none : ∀ call ∈ interrupted, (Event.read s.descriptor s.roomToRead call).stored = [] := by
    intro call mem
    obtain ⟨e, failed⟩ := fails call mem
    simp [Event.stored, ReadCall.stored, ReadCall.message, failed]
  refine ⟨?_, nothing⟩
  rw [storedMessages_flatten, ← stored, Socket.readEvents, calls]
  simpa [storedBytes, Event.stored] using none

theorem receive (answers : List ReadAnswer) (s : Socket) : Gathers f s (s.readNotification Slot.idle answers).2 := by
  have link := Socket.linkView_of_downView (s.downView_readNotification answers)
  have step := readNotification_step answers s
  generalize s.readNotification Slot.idle answers = r at link step
  cases step with
  | full =>
    rw [Socket.setRead_false] at link ⊢
    exact still link rfl rfl (List.append_nil _).symm (by simp)
  | failed room failed =>
    refine ⟨link, rfl, fun isoTp _ => ⟨_, List.append_assoc _ _ _, ?_, fun some => ?_⟩⟩
    all_goals
      obtain ⟨stored, nothing⟩ := readEvents_stored isoTp answers
      have told : storedMessages
          [Event.signal (.error (transferError .readError ((s.readResult answers).errno.getD s.errno)).errorCode)] = [] := rfl
    · rw [storedMessages_append, told, List.append_nil, stored, nothing failed, List.append_nil]
      rfl
    · rw [storedMessages_append, told, List.append_nil, stored, nothing failed] at some
      exact absurd rfl some
  | received room stored =>
    rw [Socket.readReceived, Socket.disableIfFull_notifier] at link ⊢
    refine ⟨link, rfl, fun isoTp outside => ⟨_, List.append_assoc _ _ _, ?_, fun some => ?_⟩⟩
    all_goals
      have stored := (readEvents_stored isoTp answers).1
      have told : storedMessages (if s.emittedReadyRead = false ∧ (s.readResult answers).data ≠ [] then
          [.signal .readyRead] else []) = [] := by split <;> rfl
    · rw [storedMessages_append, told, List.append_nil, stored]
      rfl
    · rw [storedMessages_append, told, List.append_nil, stored] at some
      rw [if_pos ⟨outside, some⟩]
      simp [readyReads]

theorem send (env : WriteEnv) (s : Socket) : Gathers f s (s.completeAsyncWrite Slot.idle env).2 := by
  have step := completeAsyncWrite_step env s
  obtain ⟨buffer, _⟩ := step.reading
  obtain ⟨events, trace, writing⟩ := step.adds
  have protocol := congrArg ReadView.protocol (s.readView_completeAsyncWrite env)
  refine still (s.linkView_completeAsyncWrite env) protocol buffer trace fun e mem => ?_
  have writes := writing e mem
  cases e <;> first | rfl | cases writes

theorem readyReadTurn (msecs : Int32) (round : WaitRound) (s : Socket) :
    Gathers f s (s.readyReadTurn Slot.idle msecs round).state := by
  have selected := @select f true (s.writeBuffer ≠ []) (Socket.timeoutValue msecs round.elapsed) round.select s
  unfold Socket.readyReadTurn
  split
  next t eq => rwa [eq] at selected
  next readyToRead readyToWrite t eq =>
    rw [eq] at selected
    cases readyToRead with
    | true => exact selected.trans (receive round.read t)
    | false =>
      have written : Gathers f t (if readyToWrite then t.completeAsyncWrite Slot.idle round.write else (true, t)).2 := by
        split
        next => exact send round.write t
        next => exact refl t
      rw [if_neg Bool.false_ne_true]
      generalize (if readyToWrite then t.completeAsyncWrite Slot.idle round.write else (true, t)) = r at written
      have sofar := selected.trans written
      dsimp only
      split
      next => exact sofar
      next => split <;> exact sofar

theorem bytesWrittenTurn (msecs : Int32) (round : WaitRound) (s : Socket) :
    Gathers f s (s.bytesWrittenTurn Slot.idle msecs round).state := by
  have selected := @select f true (s.writeBuffer ≠ []) (Socket.timeoutValue msecs round.elapsed) round.select s
  unfold Socket.bytesWrittenTurn
  split
  next t eq => rwa [eq] at selected
  next readyToRead readyToWrite t eq =>
    rw [eq] at selected
    have received : Gathers f t (if readyToRead then t.readNotification Slot.idle round.read else (true, t)).2 := by
      split
      next => exact receive round.read t
      next => exact refl t
    generalize (if readyToRead then t.readNotification Slot.idle round.read else (true, t)) = r at received
    have sofar := selected.trans received
    dsimp only
    split
    next => exact sofar
    next =>
      split
      next => exact sofar.trans (send round.write _)
      next => exact sofar

/-- Whatever is called but a read gathers. -/
theorem step {c : Call} (on : c.OnConnection) (quiet : ∀ maxSize, c ≠ .read maxSize) (s : Socket) :
    Gathers f s (s.step c) := by
  have interrupted : ∀ (msecs : Int32) (t : Socket), Gathers f t (t.interrupted Slot.idle msecs).2 :=
    fun _ t => select _ _ _ _ t
  unfold Socket.step Socket.exec
  cases c with
  | connectToInterface => exact on.elim
  | close => exact on.elim
  | setSocketOption => exact on.elim
  | read maxSize => exact absurd rfl (quiet maxSize)
  | write data => exact write data s
  | flush env => exact send env s
  | setReadBufferSize size => exact limit size s
  | readNotification answers => exact receive answers s
  | writeNotification env =>
    dsimp only
    split
    next => exact send env s
    next => exact refl s
  | waitForReadyRead msecs rounds =>
    unfold Socket.waitForReadyRead
    dsimp only
    split
    next => exact refl s
    next =>
      rw [Socket.waitForReadyReadLoop_eq]
      exact loop_rel (R := Gathers f) trans (readyReadTurn msecs) (interrupted msecs) rounds s
  | waitForBytesWritten msecs rounds =>
    unfold Socket.waitForBytesWritten
    dsimp only
    split
    next => exact refl s
    next =>
      split
      next => exact refl s
      next =>
        rw [Socket.waitForBytesWrittenLoop_eq]
        exact loop_rel (R := Gathers f) trans (bytesWrittenTurn msecs) (interrupted msecs) rounds s

end Gathers

namespace ShowsMessages

variable {f : CanIsoTpFields} {r : CanIsoTpReader}

theorem called (h : ShowsMessages f r) (piece : Nat) {c : Call} (on : c.OnConnection) (quiet : ∀ maxSize, c ≠ .read maxSize) :
    ShowsMessages f (ReaderStep.exec piece (.call c) r) := by
  have gathers := @Gathers.step f c on quiet r.socket
  obtain ⟨events, trace, buffer, told⟩ := gathers.gathered h.protocol h.outside
  obtain ⟨groups, rest, lines, stored, buffered⟩ := h.lines
  refine ⟨gathers.protocol.trans h.protocol,
    (congrArg (fun v : LinkView => v.openMode.readOnly) gathers.link).trans h.readable,
    (congrArg LinkView.emittedReadyRead gathers.link).trans h.outside,
    ⟨groups, rest ++ storedMessages events, lines, ?_, ?_⟩, ?_⟩
  · show storedMessages (r.socket.step c).trace = _
    rw [trace, storedMessages_append, stored, List.append_assoc]
  · show (r.socket.step c).buffer = _
    rw [buffer, buffered, List.flatten_append]
  · intro waiting
    show 0 < r.posted + (readyReads (r.socket.step c).trace - readyReads r.socket.trace)
    change (r.socket.step c).buffer ≠ [] at waiting
    have counted : readyReads (r.socket.step c).trace - readyReads r.socket.trace = readyReads events := by
      rw [trace]
      unfold readyReads
      rw [List.countP_append]
      omega
    rw [counted]
    by_cases none : (storedMessages events).flatten = []
    · rw [buffer, none, List.append_nil] at waiting
      have := h.posted waiting
      omega
    · have := told none
      omega

theorem handled (h : ShowsMessages f r) {piece : Nat} (positive : 0 < piece) :
    ShowsMessages f (ReaderStep.exec piece .handleReadyRead r) := by
  unfold ReaderStep.exec
  dsimp only
  split
  next => exact h
  next =>
    obtain ⟨value, buffer, reads⟩ := Socket.readAll_serves positive h.readable
    obtain ⟨protocol, stored⟩ := reads.stored
    obtain ⟨groups, rest, lines, messages, buffered⟩ := h.lines
    refine ⟨protocol.trans h.protocol, reads.readable h.readable,
      (congrArg LinkView.emittedReadyRead reads.linkView).trans h.outside, ⟨groups ++ [rest], [], ?_, ?_, buffer⟩,
      fun waiting => absurd buffer waiting⟩
    · show r.lines ++ [(r.socket.readAll piece).1] = _
      rw [value, buffered, lines, List.map_append]
      rfl
    · show storedMessages (r.socket.readAll piece).2.trace = _
      rw [stored, messages]
      simp

end ShowsMessages

/-- The example's reader writes every message that was stored, whole and in order, some of them in one line, and has
written all of them when no `readyRead` is posted any more, whatever is called meanwhile and however late it comes. -/
theorem message_reader_shows_all {f : CanIsoTpFields} {s : Socket} (start : JustConnected s)
    (isoTp : s.protocol = .isoTp f) (readable : s.openMode.readOnly = true) {piece : Nat} (positive : 0 < piece)
    {steps : List ReaderStep} (on : ∀ step ∈ steps, step.OnConnection) :
    let r := CallRun.run (ReaderStep.exec piece) steps { socket := s }
    WrittenInLines (storedMessages r.socket.trace) r.lines r.socket.buffer ∧ (r.posted = 0 → r.socket.buffer = []) := by
  intro r
  have begun : ShowsMessages f { socket := s } := by
    refine ⟨isoTp, readable, start.emittedReadyRead, ⟨[], [], rfl, ?_, start.buffer⟩, fun waiting => ?_⟩
    · simp [start.trace, storedMessages]
    · exact absurd start.buffer waiting
  have reached : ShowsMessages f r := by
    refine CallRun.run_invariant (fun step r on h => ?_) (CallRun.guarded_of_all on _) begun
    cases step with
    | call c => exact h.called piece on.1 on.2
    | handleReadyRead => exact h.handled positive
  refine ⟨reached.lines, fun none => ?_⟩
  by_contra waiting
  have := reached.posted waiting
  omega

theorem message_reader_shows_all_late :
    let r := CallRun.run (ReaderStep.exec 2) [.call (.readNotification [.fail .EINTR, .got [1, 2]]),
        .call (.waitForReadyRead 30 [⟨0, .ready true false, [.got [3]], ⟨0, []⟩, 5⟩]), .handleReadyRead,
        .call (.readNotification [.fail .EAGAIN]), .handleReadyRead]
      { socket := { Socket.connected (.isoTp (.initial 50000)) 3 with readBufferMaxSize := 8 } }
    r.lines = [[1, 2, 3], []] ∧ WrittenInLines (storedMessages r.socket.trace) r.lines r.socket.buffer ∧
      (r.posted = 0 → r.socket.buffer = []) :=
  ⟨by decide, message_reader_shows_all ⟨rfl, rfl, rfl, rfl, rfl, rfl, rfl, rfl, rfl, rfl⟩ rfl rfl (by decide) (by
    simp [ReaderStep.OnConnection, Call.OnConnection])⟩

end CanSocket
