import CanSocket.ReadWakeup
import CanSocket.WriteSide

namespace CanSocket

/-- The error a failed transfer is reported as, by the errno there is at that moment. -/
def transferError (kind : SocketError) (errno : Errno) : CanAbstractSocketErrorInfo :=
  if (getSystemError errno).errorCode ≠ .socketResourceError then
    { getSystemError errno with errorCode := kind }
  else getSystemError errno

namespace Socket

/-- What `readFromSocket` leaves behind when a read notification calls it. -/
def readResult (answers : List ReadAnswer) (s : Socket) : ReadResult :=
  s.protocol.readFromSocket s.roomToRead (s.readAnswers answers)

def readEvents (answers : List ReadAnswer) (s : Socket) : List Event :=
  .readFromSocket s.roomToRead (s.readAnswers answers) ::
    (s.readResult answers).calls.map (Event.read s.descriptor s.roomToRead)

def writeEvents (env : WriteEnv) (s : Socket) : List Event :=
  .writeToSocket s.emittedBytesWritten (s.nextDataBlock env) (s.writeAnswers env.answers) ::
    (s.writeResult env).calls.map (Event.write s.descriptor)

/-- The state behind the calls of a read step, with the buffer it leaves and what it signals. -/
def afterRead (answers : List ReadAnswer) (buffer : List UInt8) (told : List Event) (s : Socket) : Socket :=
  { s with
    buffer := buffer
    errno := (s.readResult answers).errno.getD s.errno
    trace := s.trace ++ s.readEvents answers ++ told }

def afterWrite (env : WriteEnv) (told : List Event) (s : Socket) : Socket :=
  { s with
    errno := (s.writeResult env).errno.getD s.errno
    trace := s.trace ++ s.writeEvents env ++ told }

def withError (info : CanAbstractSocketErrorInfo) (s : Socket) : Socket :=
  { s with error := info.errorCode, errorString := info.errorString }

/-- The state a failed read step leaves. The space is given back, and the notifier is switched
off by a resource error. -/
def readFailed (answers : List ReadAnswer) (s : Socket) : Socket :=
  let info := transferError .readError ((s.readResult answers).errno.getD s.errno)
  { (s.afterRead answers s.buffer [.signal (.error info.errorCode)]).withError info with
    readNotifier := if info.errorCode = .socketResourceError then s.readNotifier.map Notifier.off
      else s.readNotifier }

/-- The state a read step leaves that did not fail. -/
def readReceived (answers : List ReadAnswer) (s : Socket) : Socket :=
  (s.afterRead answers (s.buffer ++ (s.readResult answers).data)
    (if s.emittedReadyRead = false ∧ (s.readResult answers).data ≠ [] then [.signal .readyRead]
      else [])).disableIfFull

theorem disableIfFull_notifier (s : Socket) :
    s.disableIfFull = { s with
      readNotifier := if s.readBufferMaxSize ≠ 0 ∧ (s.buffer.length : Int) = s.readBufferMaxSize then
        s.readNotifier.map Notifier.off else s.readNotifier } := by
  unfold disableIfFull
  split
  next => exact s.setRead_false
  next => rfl

theorem readResult_raw {options : CanRawOptions} {s : Socket} (raw : s.protocol = .raw options)
    (answers : List ReadAnswer) : s.readResult answers =
      rawReadFromSocket options.flexibleDataRateFrames s.roomToRead (s.readAnswers answers) := by
  rw [readResult, raw]
  rfl

theorem writeResult_raw {options : CanRawOptions} {s : Socket} (raw : s.protocol = .raw options)
    (env : WriteEnv) : s.writeResult env =
      rawWriteToSocket options.flexibleDataRateFrames (s.nextDataBlock env) (s.writeAnswers env.answers) := by
  rw [writeResult, raw]
  rfl

/-- The state in which a failed read tells its error. -/
def readFailing (s : Socket) : Socket :=
  let info := transferError .readError s.errno
  { s.withError info with
    readNotifier := if info.errorCode = .socketResourceError then s.readNotifier.map Notifier.off else s.readNotifier
    trace := s.trace ++ [.signal (.error info.errorCode)] }

theorem failReceive_tells (slot : Slot) (bytesToRead : Int) (s : Socket) :
    s.failReceive slot bytesToRead =
      let t := slot (.error (transferError .readError s.errno).errorCode) s.readFailing
      { t with buffer := chop bytesToRead t.buffer } := by
  unfold failReceive readFailing transferError
  generalize getSystemError s.errno = info
  by_cases resource : info.errorCode = .socketResourceError
  · have taken := not_not.mpr resource
    dsimp only
    simp only [if_neg taken, if_pos resource, setRead_false]
    rfl
  · have other : SocketError.readError ≠ .socketResourceError := by decide
    dsimp only
    simp only [if_pos resource, if_neg other]
    rfl

end Socket

/-- The ways a read notification ends that no slot is connected to. -/
inductive ReadStep (answers : List ReadAnswer) (s : Socket) : Bool × Socket → Prop
  | full : s.readBufferMaxSize ≠ 0 → s.roomToRead = 0 →
      ReadStep answers s (false, s.setReadNotificationEnabled false)
  | failed : s.roomToRead ≠ 0 → (s.readResult answers).ret < 0 →
      ReadStep answers s (false, s.readFailed answers)
  | received : s.roomToRead ≠ 0 → (s.readResult answers).ret = (s.readResult answers).data.length →
      ReadStep answers s (true, s.readReceived answers)

theorem failReceive_idle (answers : List ReadAnswer) {s : Socket}
    (inside : ((s.readResult answers).data.length : Int) ≤ max s.roomToRead 0) :
    (s.fillSpace answers s.roomToRead).failReceive Slot.idle s.roomToRead = s.readFailed answers := by
  have kept : Socket.chop s.roomToRead (s.fillSpace answers s.roomToRead).buffer = s.buffer :=
    Socket.chop_reserve_all inside
  rw [Socket.failReceive_tells]
  exact congrArg (fun buffer => ({ (s.fillSpace answers s.roomToRead).readFailing with buffer := buffer } : Socket)) kept

theorem emitReadyRead_idle (newBytes : Int) (s : Socket) :
    s.emitReadyRead Slot.idle newBytes = { s with
      trace := s.trace ++ if s.emittedReadyRead = false ∧ 0 < newBytes then [.signal .readyRead] else [] } := by
  unfold Socket.emitReadyRead
  by_cases emits : s.emittedReadyRead = false ∧ 0 < newBytes
  · rw [if_pos (by simpa using emits), if_pos emits, ← emits.1]
    rfl
  · rw [if_neg (by simpa using emits), if_neg emits, List.append_nil]

theorem receive_step (answers : List ReadAnswer) {s : Socket} (room : s.roomToRead ≠ 0) :
    ReadStep answers s (s.receive Slot.idle answers s.roomToRead) := by
  obtain ⟨stored, inside⟩ := s.protocol.readFromSocket_spec s.roomToRead (s.readAnswers answers)
  unfold Socket.receive
  dsimp only
  by_cases failed : (s.protocol.readFromSocket s.roomToRead (s.readAnswers answers)).ret < 0
  · rw [if_pos failed, failReceive_idle answers inside]
    exact .failed room failed
  · have stored : (s.readResult answers).ret = (s.readResult answers).data.length := by
      have : (s.readResult answers).ret = -1 ∨ (s.readResult answers).ret = (s.readResult answers).data.length := stored
      have : ¬(s.readResult answers).ret < 0 := failed
      omega
    have kept : Socket.chop (s.roomToRead - (s.protocol.readFromSocket s.roomToRead (s.readAnswers answers)).ret)
        (s.fillSpace answers s.roomToRead).buffer = s.buffer ++ (s.readResult answers).data := by
      have ret : (s.protocol.readFromSocket s.roomToRead (s.readAnswers answers)).ret =
        (s.readResult answers).data.length := stored
      rw [ret]
      exact Socket.chop_reserve_rest inside
    have news : (0 : Int) < (s.buffer ++ (s.readResult answers).data).length - s.buffer.length ↔
        (s.readResult answers).data ≠ [] := by
      rw [List.length_append, ← List.length_pos_iff]
      omega
    rw [if_neg failed, if_neg room, kept, Socket.disableIfFull_notifier, emitReadyRead_idle]
    dsimp only
    simp only [news]
    have step := @ReadStep.received answers s room stored
    rw [Socket.readReceived, Socket.disableIfFull_notifier] at step
    exact step

theorem readNotification_step (answers : List ReadAnswer) (s : Socket) :
    ReadStep answers s (s.readNotification Slot.idle answers) := by
  have chunk : s.protocol.readChunkSize ≠ 0 := by
    cases s.protocol with
    | raw options => exact (by decide : (1152 : Int) ≠ 0)
    | isoTp fields => exact (by decide : (4096 : Int) ≠ 0)
  unfold Socket.readNotification
  dsimp only
  split
  next limited =>
    have room : s.roomToRead = s.readBufferMaxSize - s.buffer.length := if_pos limited
    rw [← room]
    split
    next none => exact .full limited.1 none
    next some => exact receive_step answers some
  next unlimited =>
    have room : s.roomToRead = s.protocol.readChunkSize := if_neg unlimited
    rw [← room]
    exact receive_step answers (by rw [room]; exact chunk)

/-- A read step comes back with true unless the buffer is full or the read fails. -/
theorem ReadStep.ok_iff {answers : List ReadAnswer} {s : Socket} {r : Bool × Socket} (h : ReadStep answers s r) :
    r.1 = true ↔ s.roomToRead ≠ 0 ∧ 0 ≤ (s.readResult answers).ret := by
  cases h with
  | full _ none => simp [none]
  | failed _ failed => simp [failed]
  | received room stored => exact iff_of_true rfl ⟨room, by omega⟩

namespace Socket

/-- What `completeAsyncWrite` signals before anything else. -/
def reportEvents (s : Socket) : List Event :=
  if 0 < s.pendingBytesWritten ∧ s.emittedBytesWritten = false then
    [.signal (.bytesWritten s.pendingBytesWritten)]
  else []

theorem announced_idle (s : Socket) :
    s.announced Slot.idle = { s with
      trace := s.trace ++ s.reportEvents
      pendingBytesWritten := if 0 < s.pendingBytesWritten ∧ s.emittedBytesWritten = false then 0
        else s.pendingBytesWritten
      writeSequenceStarted := false } := by
  unfold announced emitBytesWritten reportEvents
  by_cases reports : 0 < s.pendingBytesWritten ∧ s.emittedBytesWritten = false
  · rw [if_pos (by simpa using reports), if_pos reports, if_pos reports, ← reports.2]
    rfl
  · rw [if_neg (by simpa using reports), if_neg reports, if_neg reports, List.append_nil]

def writeFailed (env : WriteEnv) (s : Socket) : Socket :=
  let info := transferError .writeError ((s.writeResult env).errno.getD s.errno)
  (s.afterWrite env [.signal (.error info.errorCode)]).withError info

def writeSent (env : WriteEnv) (n : Nat) (made : Option Notifier × List (Nat × Int)) (s : Socket) : Socket :=
  { s.afterWrite env [.freed n] with
    writeBuffer := s.writeBuffer.drop n
    pendingBytesWritten := s.pendingBytesWritten + n
    writeSequenceStarted := true
    writeNotifier := made.1
    watched := made.2 }

end Socket

/-- The two ways a sending step ends that no slot is connected to. -/
inductive WriteStep (env : WriteEnv) (s : Socket) : Bool × Socket → Prop
  | failed : (s.writeResult env).ret < 0 → WriteStep env s (false, s.writeFailed env)
  | sent (n : Nat) (made : Option Notifier × List (Nat × Int)) : (s.writeResult env).ret = n →
      n ≤ (s.nextDataBlock env).length →
      (s.writeSent env n made).isWriteNotificationEnabled = true →
      WriteStep env s (true, s.writeSent env n made)

theorem startAsyncWrite_failed (slot : Slot) {env : WriteEnv} {s : Socket}
    (going : ¬(s.writeBuffer = [] ∨ s.writeSequenceStarted = true)) (failed : (s.writeResult env).ret < 0) :
    s.startAsyncWrite slot env =
      (false, (s.sendBlock env).setError slot (transferError .writeError (s.sendBlock env).errno)) := by
  unfold Socket.startAsyncWrite transferError
  rw [if_neg going]
  dsimp only
  rw [if_pos failed]
  split <;> rfl

theorem startAsyncWrite_step (env : WriteEnv) {s : Socket} (waiting : s.writeBuffer ≠ [])
    (idle : s.writeSequenceStarted = false) : WriteStep env s (s.startAsyncWrite Slot.idle env) := by
  have go : ¬(s.writeBuffer = [] ∨ s.writeSequenceStarted = true) := by simp [waiting, idle]
  by_cases failed : (s.writeResult env).ret < 0
  · rw [startAsyncWrite_failed Slot.idle go failed]
    exact .failed failed
  · obtain ⟨n, ret, bound, _⟩ := Protocol.writeToSocket_accepted (Int.not_lt.mp failed)
    have ret : (s.writeResult env).ret = n := ret
    unfold Socket.startAsyncWrite
    rw [if_neg go]
    dsimp only
    rw [if_neg failed, ret]
    split
    next =>
      obtain ⟨made, eq⟩ := ((s.sendBlock env).freeWritten n).setWrite_eq true
      have on := Socket.setWrite_isWrite true ((s.sendBlock env).freeWritten n)
      rw [eq] at on ⊢
      exact .sent n made ret bound on
    next on =>
      have on : ((s.sendBlock env).freeWritten n).isWriteNotificationEnabled = true := by simpa using on
      exact .sent n (s.writeNotifier, s.watched) ret bound on

/-- `completeAsyncWrite` with no slot connected. -/
inductive CompleteStep (env : WriteEnv) (s : Socket) : Bool × Socket → Prop
  | drained : s.writeBuffer = [] →
      CompleteStep env s (true, (s.announced Slot.idle).setWriteNotificationEnabled false)
  | wrote (r : Bool × Socket) : s.writeBuffer ≠ [] → WriteStep env (s.announced Slot.idle) r →
      CompleteStep env s r

theorem completeAsyncWrite_step (env : WriteEnv) (s : Socket) :
    CompleteStep env s (s.completeAsyncWrite Slot.idle env) := by
  have queued : (s.announced Slot.idle).writeBuffer = s.writeBuffer := by rw [s.announced_idle]
  by_cases empty : s.writeBuffer = []
  · have done : s.completeAsyncWrite Slot.idle env = _ := if_pos (queued.trans empty)
    rw [done]
    exact .drained empty
  · have waiting : (s.announced Slot.idle).writeBuffer ≠ [] := by rwa [queued]
    have goes : s.completeAsyncWrite Slot.idle env = _ := if_neg waiting
    rw [goes]
    exact .wrote _ empty (startAsyncWrite_step env waiting rfl)

end CanSocket
