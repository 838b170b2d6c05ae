import CanSocket.Connection
import CanSocket.Ledger

namespace CanSocket

open Ledger

def Event.act : Event → Option (Act Int)
  | .opened descriptor => some (.acquire descriptor)
  | .closed descriptor => some (.release descriptor)
  | _ => none

def Event.onLink (e : Event) : Bool := e.act.isSome

/-- The kernel sockets opened and not yet closed, `none` once one was closed that was not open. -/
def openSockets (trace : List Event) : Option (List Int) := held Event.act trace

/-- The part of a socket that concerns its link to the interface. -/
structure LinkView where
  openMode : OpenMode
  state : SocketState
  interfaceName : String
  descriptor : Int
  emittedReadyRead : Bool
  emittedBytesWritten : Bool
  trace : List Event

structure DownView extends LinkView where
  reading : Bool
  writeNotifier : Option Notifier
  pendingBytesWritten : Int
  writeSequenceStarted : Bool

theorem openSockets_filter (trace : List Event) :
    openSockets (trace.filter Event.onLink) = openSockets trace := by
  apply held_filter
  intro e off
  simpa [Event.onLink] using off

namespace Socket

def linkView (s : Socket) : LinkView :=
  ⟨s.openMode, s.state, s.interfaceName, s.descriptor, s.emittedReadyRead, s.emittedBytesWritten,
    s.trace.filter Event.onLink⟩

def downView (s : Socket) : DownView :=
  ⟨s.linkView, s.readNotifier.isSome, s.writeNotifier, s.pendingBytesWritten, s.writeSequenceStarted⟩

theorem linkView_of_downView {s t : Socket} (same : t.downView = s.downView) : t.linkView = s.linkView :=
  congrArg DownView.toLinkView same

theorem openSockets_of_linkView {s t : Socket} (same : t.linkView = s.linkView) :
    openSockets t.trace = openSockets s.trace := by
  have trace : t.trace.filter Event.onLink = s.trace.filter Event.onLink := congrArg LinkView.trace same
  rw [← openSockets_filter, trace, openSockets_filter]

theorem linkView_log {e : Event} (silent : e.act = none) (s : Socket) :
    (s.log e).linkView = s.linkView := by
  simp [linkView, log, Event.onLink, silent]

theorem downView_log {e : Event} (silent : e.act = none) (s : Socket) :
    (s.log e).downView = s.downView := by
  rw [downView, linkView_log silent]
  rfl

@[simp] theorem downView_setError (info : CanAbstractSocketErrorInfo) (s : Socket) :
    (s.setError Slot.idle info).downView = s.downView := downView_log rfl _

@[simp] theorem downView_setSystemError (e : Errno) (s : Socket) :
    (s.setSystemError Slot.idle e).downView = s.downView := downView_setError _ _

@[simp] theorem linkView_setRead (enable : Bool) (s : Socket) :
    (s.setReadNotificationEnabled enable).linkView = s.linkView := by
  obtain ⟨made, eq⟩ := s.setRead_eq enable
  rw [eq]
  rfl

@[simp] theorem linkView_setWrite (enable : Bool) (s : Socket) :
    (s.setWriteNotificationEnabled enable).linkView = s.linkView := by
  obtain ⟨made, eq⟩ := s.setWrite_eq enable
  rw [eq]
  rfl

@[simp] theorem downView_setRead (s : Socket) :
    (s.setReadNotificationEnabled false).downView = s.downView := by
  cases reading : s.readNotifier <;> simp [setReadNotificationEnabled, downView, linkView, reading]

@[simp] theorem downView_disableIfFull (s : Socket) : s.disableIfFull.downView = s.downView := by
  unfold disableIfFull
  split <;> simp

@[simp] theorem downView_fillSpace (answers : List ReadAnswer) (bytesToRead : Int) (s : Socket) :
    (s.fillSpace answers bytesToRead).downView = s.downView := by
  simp [downView, linkView, fillSpace, setErrno, Event.onLink, Event.act, List.filter_eq_nil_iff]

@[simp] theorem downView_sendBlock (env : WriteEnv) (s : Socket) :
    (s.sendBlock env).downView = s.downView := by
  simp [downView, linkView, sendBlock, setErrno, Event.onLink, Event.act, List.filter_eq_nil_iff]

theorem downView_buffer (buffer : List UInt8) (s : Socket) :
    downView { s with buffer := buffer } = s.downView := rfl

theorem downView_failReceive (bytesToRead : Int) (s : Socket) :
    (s.failReceive Slot.idle bytesToRead).downView = s.downView := by
  unfold failReceive
  rw [downView_buffer]
  split <;> simp

@[simp] theorem downView_emitReadyRead (newBytes : Int) (s : Socket) :
    (s.emitReadyRead Slot.idle newBytes).downView = s.downView := by
  unfold emitReadyRead
  split
  next fresh =>
    have flag : s.emittedReadyRead = false := by simpa using fresh.1
    have logged := downView_log (e := .signal .readyRead) rfl s
    rw [← logged, downView, linkView, downView, linkView, ← flag]
    rfl
  next => rfl

theorem downView_receive (answers : List ReadAnswer) (bytesToRead : Int) (s : Socket) :
    (s.receive Slot.idle answers bytesToRead).2.downView = s.downView := by
  have filled := s.downView_fillSpace answers bytesToRead
  unfold receive
  dsimp only
  split
  next => exact (downView_failReceive _ _).trans filled
  next => split <;> simp [downView_buffer]

theorem downView_readNotification (answers : List ReadAnswer) (s : Socket) :
    (s.readNotification Slot.idle answers).2.downView = s.downView := by
  unfold readNotification
  dsimp only
  split
  next =>
    split
    next => exact s.downView_setRead
    next => exact s.downView_receive _ _
  next => exact s.downView_receive _ _

theorem downView_waitForReadOrWrite (checkRead checkWrite : Bool) (msecs : Int32) (answer : SelectAnswer)
    (s : Socket) : (s.waitForReadOrWrite Slot.idle checkRead checkWrite msecs answer).2.downView = s.downView := by
  have logged := downView_log (e := .select s.descriptor checkRead checkWrite msecs answer) rfl s
  cases answer with
  | fail e => exact (downView_setSystemError e _).trans logged
  | timeout => exact (downView_setError _ _).trans logged
  | ready read write => exact logged

theorem downView_setReadBufferSize (size : Int) (s : Socket) :
    (s.setReadBufferSize size).downView = s.downView := by
  unfold setReadBufferSize
  split <;> rfl

theorem linkView_readDevice (maxSize : Nat) (s : Socket) : (s.readDevice maxSize).linkView = s.linkView := by
  have taken : (({ s with buffer := s.buffer.drop maxSize }).log
      (.userRead (s.buffer.take maxSize))).linkView = s.linkView :=
    linkView_log rfl _
  unfold readDevice readData
  split
  next => rfl
  next =>
    dsimp only
    split
    next => split <;> simp [taken]
    next => exact taken

theorem linkView_writeDevice (data : List UInt8) (s : Socket) : (s.writeDevice data).linkView = s.linkView := by
  have logged : (({ s with writeBuffer := s.writeBuffer ++ data }).log (.queued data)).linkView =
      s.linkView := linkView_log rfl _
  unfold writeDevice writeData
  split
  next => rfl
  next =>
    dsimp only
    split <;> simp [logged]

theorem linkView_startAsyncWrite (env : WriteEnv) (s : Socket) :
    (s.startAsyncWrite Slot.idle env).2.linkView = s.linkView := by
  have sent := linkView_of_downView (s.downView_sendBlock env)
  have failed : ∀ (t : Socket) info, (t.setError Slot.idle info).linkView = t.linkView :=
    fun t info => linkView_of_downView (t.downView_setError info)
  have freed : ∀ (t : Socket) (n : Int), (t.freeWritten n).linkView = t.linkView :=
    fun t n => linkView_log rfl _
  unfold startAsyncWrite
  split
  next => rfl
  next =>
    dsimp only
    split
    next => split <;> simp [failed, sent]
    next => split <;> simp [freed, sent]

theorem linkView_completeAsyncWrite (env : WriteEnv) (s : Socket) :
    (s.completeAsyncWrite Slot.idle env).2.linkView = s.linkView := by
  have emitted : (s.emitBytesWritten Slot.idle).linkView = s.linkView := by
    unfold emitBytesWritten
    split
    next fresh =>
      have flag : s.emittedBytesWritten = false := by simpa using fresh.2
      have logged := linkView_log (e := .signal (.bytesWritten s.pendingBytesWritten)) rfl s
      rw [← logged, linkView, linkView, ← flag]
      rfl
    next => rfl
  unfold completeAsyncWrite
  dsimp only
  split
  next => exact (linkView_setWrite false _).trans emitted
  next => exact (linkView_startAsyncWrite env _).trans emitted

end Socket

theorem linkView_partsKeep : PartsKeep Slot.idle (fun _ => True) fun s t => t.linkView = s.linkView where
  refl _ := rfl
  trans first second := second.trans first
  select _ _ _ answer s := Socket.linkView_of_downView (s.downView_waitForReadOrWrite _ _ _ answer)
  write data s := s.linkView_writeDevice data
  read maxSize s := s.linkView_readDevice maxSize
  limit size s := Socket.linkView_of_downView (s.downView_setReadBufferSize size)
  receive answers _ s := Socket.linkView_of_downView (s.downView_readNotification answers)
  send env s := s.linkView_completeAsyncWrite env

end CanSocket
