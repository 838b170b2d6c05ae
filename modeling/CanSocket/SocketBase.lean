import CanSocket.SocketTypes

namespace CanSocket

def getSystemError (errno : Errno) : CanAbstractSocketErrorInfo :=
  match errno with
  | .ENODEV => ⟨.noSuchDeviceError, .text "No such device system error"⟩
  | .EACCES => ⟨.socketAccessError, .text "Permission denied system error"⟩
  | .EAFNOSUPPORT =>
    ⟨.unsupportedSocketOperationError, .text "Address family not supported by protocol system error"⟩
  | .EINVAL => ⟨.unsupportedSocketOperationError, .text "Invalid argument system error"⟩
  | .EMFILE => ⟨.socketResourceError, .text "Too many open files system error"⟩
  | .ENFILE => ⟨.socketResourceError, .text "File table overflow system error"⟩
  | .ENOBUFS => ⟨.socketResourceError, .text "No buffer space available system error"⟩
  | .ENOMEM => ⟨.socketResourceError, .text "Out of memory system error"⟩
  | .EPROTONOSUPPORT =>
    ⟨.unsupportedSocketOperationError, .text "Protocol not supported system error"⟩
  | e => ⟨.unkownSocketError, .system e⟩

/-- The constructor of `CanAbstractSocketErrorInfo` with no text of its own. -/
def errorInfo (errorCode : SocketError) : CanAbstractSocketErrorInfo :=
  match errorCode with
  | .unkownSocketError => ⟨errorCode, .text "Unknown Error"⟩
  | .noSuchDeviceError => ⟨errorCode, .text "No such device"⟩
  | .socketAccessError => ⟨errorCode, .text "Permission denied"⟩
  | .socketResourceError => ⟨errorCode, .text "Resource error"⟩
  | .socketTimeoutError => ⟨errorCode, .text "Operation timed out"⟩
  | .unsupportedSocketOperationError => ⟨errorCode, .text "Unsupported socket operation"⟩
  | .operationError => ⟨errorCode, .text "Operation error"⟩
  | .writeError => ⟨errorCode, .text "Write error"⟩
  | .readError => ⟨errorCode, .text "Read error"⟩
  | .noError => ⟨errorCode, .text "No error"⟩

def Notifier.off (notifier : Notifier) : Notifier := { notifier with enabled := false }

namespace Socket

def log (e : Event) (s : Socket) : Socket := { s with trace := s.trace ++ [e] }

def emit (slot : Slot) (sig : Signal) (s : Socket) : Socket := slot sig (s.log (.signal sig))

/-- A failing kernel call leaves its errno behind, any other keeps the old one. -/
def setErrno (errno : Option Errno) (s : Socket) : Socket := { s with errno := errno.getD s.errno }

def setError (slot : Slot) (info : CanAbstractSocketErrorInfo) (s : Socket) : Socket :=
  ({ s with error := info.errorCode, errorString := info.errorString }).emit slot (.error info.errorCode)

/-- `setError(getSystemError())` after a kernel call that failed with this errno. -/
def setSystemError (slot : Slot) (errno : Errno) (s : Socket) : Socket :=
  (s.setErrno (some errno)).setError slot (getSystemError errno)

def setSocketState (slot : Slot) (socketState : SocketState) (s : Socket) : Socket :=
  if s.state ≠ socketState then
    ({ s with state := socketState }).emit slot (.stateChanged socketState)
  else { s with state := socketState }

def isReadNotificationEnabled (s : Socket) : Bool :=
  match s.readNotifier with
  | some notifier => notifier.enabled
  | none => false

/-- The constructor of `QSocketNotifier`, on the descriptor there is. -/
def watch (s : Socket) : Socket := { s with watched := s.watched ++ [(s.trace.length, s.descriptor)] }

def setReadNotificationEnabled (enable : Bool) (s : Socket) : Socket :=
  match s.readNotifier with
  | some notifier => { s with readNotifier := some { notifier with enabled := enable } }
  | none => if enable then { s.watch with readNotifier := some ⟨s.descriptor, true⟩ } else s

def isWriteNotificationEnabled (s : Socket) : Bool :=
  match s.writeNotifier with
  | some notifier => notifier.enabled
  | none => false

def setWriteNotificationEnabled (enable : Bool) (s : Socket) : Socket :=
  match s.writeNotifier with
  | some notifier => { s with writeNotifier := some { notifier with enabled := enable } }
  | none => if enable then { s.watch with writeNotifier := some ⟨s.descriptor, true⟩ } else s

@[simp] theorem setRead_isRead (enable : Bool) (s : Socket) :
    (s.setReadNotificationEnabled enable).isReadNotificationEnabled = enable := by
  unfold setReadNotificationEnabled isReadNotificationEnabled
  cases h : s.readNotifier <;> cases enable <;> simp [h]

@[simp] theorem setWrite_isWrite (enable : Bool) (s : Socket) :
    (s.setWriteNotificationEnabled enable).isWriteNotificationEnabled = enable := by
  unfold setWriteNotificationEnabled isWriteNotificationEnabled
  cases h : s.writeNotifier <;> cases enable <;> simp [h]

/-- No notifier is made to be off. -/
theorem setRead_false (s : Socket) :
    s.setReadNotificationEnabled false = { s with readNotifier := s.readNotifier.map Notifier.off } := by
  cases s with
  | mk _ _ _ _ _ _ _ _ _ readNotifier =>
    cases readNotifier <;> rfl

theorem setRead_eq (enable : Bool) (s : Socket) :
    ∃ made : Option Notifier × List (Nat × Int),
      s.setReadNotificationEnabled enable = { s with readNotifier := made.1, watched := made.2 } := by
  unfold setReadNotificationEnabled
  cases h : s.readNotifier with
  | some notifier => exact ⟨(_, s.watched), rfl⟩
  | none =>
    cases enable with
    | true => exact ⟨(_, _), rfl⟩
    | false => exact ⟨(s.readNotifier, s.watched), rfl⟩

theorem setWrite_eq (enable : Bool) (s : Socket) :
    ∃ made : Option Notifier × List (Nat × Int),
      s.setWriteNotificationEnabled enable = { s with writeNotifier := made.1, watched := made.2 } := by
  unfold setWriteNotificationEnabled
  cases h : s.writeNotifier with
  | some notifier => exact ⟨(_, s.watched), rfl⟩
  | none =>
    cases enable with
    | true => exact ⟨(_, _), rfl⟩
    | false => exact ⟨(s.writeNotifier, s.watched), rfl⟩

def writeData (data : List UInt8) (s : Socket) : Socket :=
  let s := ({ s with writeBuffer := s.writeBuffer ++ data }).log (.queued data)
  if s.writeBuffer ≠ [] ∧ !s.isWriteNotificationEnabled then s.setWriteNotificationEnabled true else s

/-- `QRingBuffer::reserve` and what `readFromSocket` then stored in the space. -/
def reserve (bytes : Int) (stored : List UInt8) (buffer : List UInt8) : List UInt8 :=
  buffer ++ stored ++ List.replicate (bytes.toNat - stored.length) 0

/-- `QRingBuffer::chop`; neither it nor `reserve` does anything for a negative size. -/
def chop (bytes : Int) (buffer : List UInt8) : List UInt8 :=
  buffer.take (buffer.length - bytes.toNat)

/-- The kernel refuses every call on descriptor -1, whatever it would have answered. -/
def readAnswers (s : Socket) (answers : List ReadAnswer) : List ReadAnswer :=
  if s.descriptor = -1 then [.fail .EBADF] else answers

def writeAnswers (s : Socket) (answers : List WriteAnswer) : List WriteAnswer :=
  if s.descriptor = -1 then [.fail .EBADF] else answers

theorem chop_reserve_all {bytes : Int} {stored buffer : List UInt8}
    (inside : (stored.length : Int) ≤ max bytes 0) :
    chop bytes (reserve bytes stored buffer) = buffer := by
  have len : (reserve bytes stored buffer).length - bytes.toNat = buffer.length := by
    simp only [reserve, List.length_append, List.length_replicate]
    omega
  rw [chop, len, reserve, List.append_assoc, List.take_left]

theorem chop_reserve_rest {bytes : Int} {stored buffer : List UInt8}
    (inside : (stored.length : Int) ≤ max bytes 0) :
    chop (bytes - stored.length) (reserve bytes stored buffer) = buffer ++ stored := by
  have len : (reserve bytes stored buffer).length - (bytes - stored.length).toNat =
      (buffer ++ stored).length := by
    simp only [reserve, List.length_append, List.length_replicate]
    omega
  rw [chop, len, reserve, List.take_left]

end Socket

end CanSocket
