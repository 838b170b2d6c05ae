import CanSocket.CallRun
import CanSocket.PublicInterface

namespace CanSocket

/-- The two signals of transfers are told with their flag set. -/
def Signal.Flagged (sig : Signal) (s : Socket) : Prop :=
  match sig with
  | .readyRead => s.emittedReadyRead = true
  | .bytesWritten _ => s.emittedBytesWritten = true
  | _ => True

namespace Socket

section

variable {slot other : Slot} (agree : ∀ sig t, sig.Flagged t → other sig t = slot sig t)

include agree

theorem setError_agree (info : CanAbstractSocketErrorInfo) (s : Socket) : s.setError other info = s.setError slot info :=
  agree (.error info.errorCode) _ trivial

theorem setSystemError_agree (e : Errno) (s : Socket) : s.setSystemError other e = s.setSystemError slot e :=
  setError_agree agree _ _

theorem setSocketState_agree (state : SocketState) (s : Socket) :
    s.setSocketState other state = s.setSocketState slot state := by
  simp only [setSocketState, emit, agree (.stateChanged state) _ trivial]

theorem emitBytesWritten_agree (s : Socket) : s.emitBytesWritten other = s.emitBytesWritten slot := by
  have told : ∀ t : Socket, t.emittedBytesWritten = true →
      other (.bytesWritten s.pendingBytesWritten) t = slot (.bytesWritten s.pendingBytesWritten) t :=
    agree (.bytesWritten s.pendingBytesWritten)
  simp only [emitBytesWritten, emit, log, told]

theorem emitReadyRead_agree (newBytes : Int) (s : Socket) :
    s.emitReadyRead other newBytes = s.emitReadyRead slot newBytes := by
  have told : ∀ t : Socket, t.emittedReadyRead = true → other .readyRead t = slot .readyRead t :=
    agree .readyRead
  simp only [emitReadyRead, emit, log, told]

theorem startAsyncWrite_agree (env : WriteEnv) (s : Socket) :
    s.startAsyncWrite other env = s.startAsyncWrite slot env := by
  simp only [startAsyncWrite, setError_agree agree]

theorem completeAsyncWrite_agree (env : WriteEnv) (s : Socket) :
    s.completeAsyncWrite other env = s.completeAsyncWrite slot env := by
  simp only [completeAsyncWrite, emitBytesWritten_agree agree, startAsyncWrite_agree agree]

theorem receive_agree (answers : List ReadAnswer) (bytesToRead : Int) (s : Socket) :
    s.receive other answers bytesToRead = s.receive slot answers bytesToRead := by
  simp only [receive, failReceive, setError_agree agree, emitReadyRead_agree agree]

theorem readNotification_agree (answers : List ReadAnswer) (s : Socket) :
    s.readNotification other answers = s.readNotification slot answers := by
  simp only [readNotification, receive_agree agree]

theorem waitForReadOrWrite_agree (checkRead checkWrite : Bool) (msecs : Int32) (answer : SelectAnswer) (s : Socket) :
    s.waitForReadOrWrite other checkRead checkWrite msecs answer =
      s.waitForReadOrWrite slot checkRead checkWrite msecs answer := by
  simp only [waitForReadOrWrite, setError_agree agree, setSystemError_agree agree]

theorem readyReadLoop_agree (msecs : Int32) (rounds : List WaitRound) (s : Socket) :
    s.waitForReadyReadLoop other msecs rounds = s.waitForReadyReadLoop slot msecs rounds := by
  induction rounds generalizing s with
  | nil => simp only [waitForReadyReadLoop, waitForReadOrWrite_agree agree]
  | cons round rounds ih =>
    simp only [waitForReadyReadLoop, waitForReadOrWrite_agree agree, readNotification_agree agree,
      completeAsyncWrite_agree agree, ih]

theorem bytesWrittenLoop_agree (msecs : Int32) (rounds : List WaitRound) (s : Socket) :
    s.waitForBytesWrittenLoop other msecs rounds = s.waitForBytesWrittenLoop slot msecs rounds := by
  induction rounds generalizing s with
  | nil => simp only [waitForBytesWrittenLoop, waitForReadOrWrite_agree agree]
  | cons round rounds ih =>
    simp only [waitForBytesWrittenLoop, waitForReadOrWrite_agree agree, readNotification_agree agree,
      completeAsyncWrite_agree agree, ih]

theorem applyOption_agree (option : KernelOption) (answer : Option Errno) (differs : Bool) (store : Socket → Socket)
    {changed : Signal} (s : Socket) (change : ∀ t, changed.Flagged t) :
    s.applyOption other option answer differs store changed = s.applyOption slot option answer differs store changed := by
  simp only [applyOption, setSystemError_agree agree, emit, agree _ _ (change _)]

theorem setSocketOption_agree (option : SocketOption) (answer : Option Errno) (s : Socket) :
    s.setSocketOption other option answer = s.setSocketOption slot option answer := by
  unfold setSocketOption
  cases s.protocol with
  | raw o =>
    cases option with
    | canFilterOption new => exact applyOption_agree agree _ _ _ _ s fun _ => trivial
    | errorFilterMaskOption new => exact applyOption_agree agree _ _ _ _ s fun _ => trivial
    | loopbackOption new => exact applyOption_agree agree _ _ _ _ s fun _ => trivial
    | receiveOwnMessagesOption new => exact applyOption_agree agree _ _ _ _ s fun _ => trivial
    | _ => rfl
  | isoTp f =>
    cases option with
    | txIdOption new => simp only [setIsoTpOption, emit, agree .txIdChanged _ trivial]
    | rxIdOption new => simp only [setIsoTpOption, emit, agree .rxIdChanged _ trivial]
    | isoTpOptions new => exact congrArg (releaseCopy _) (applyOption_agree agree _ _ _ _ s fun _ => trivial)
    | flowControlOptions new => exact congrArg (releaseCopy _) (applyOption_agree agree _ _ _ _ s fun _ => trivial)
    | linkLayerOptions new => exact congrArg (releaseCopy _) (applyOption_agree agree _ _ _ _ s fun _ => trivial)
    | txMinSepTimeOption new => exact applyOption_agree agree _ _ _ _ s fun _ => trivial
    | rxMinSepTimeOption new => exact applyOption_agree agree _ _ _ _ s fun _ => trivial
    | _ => rfl

theorem replayOptions_agree (answers : Nat → Option Errno) (options : List (Protocol → SocketOption)) (i : Nat)
    (s : Socket) : s.replayOptions other answers options i = s.replayOptions slot answers options i := by
  induction options generalizing i s with
  | nil => rfl
  | cons option options ih => simp only [replayOptions, setSocketOption_agree agree, ih]

theorem openDescriptor_agree (interfaceName : String) (env : ConnectEnv) (s : Socket) :
    s.openDescriptor other interfaceName env = s.openDescriptor slot interfaceName env := by
  simp only [openDescriptor, setSystemError_agree agree, replayOptions_agree agree]

theorem close_agree (answer : Option Errno) (s : Socket) : s.close other answer = s.close slot answer := by
  simp only [close, closeDescriptor, setSocketState_agree agree, setSystemError_agree agree]

theorem connectToInterface_agree (interfaceName : String) (mode : OpenMode) (env : ConnectEnv) (s : Socket) :
    s.connectToInterface other interfaceName mode env = s.connectToInterface slot interfaceName mode env := by
  simp only [connectToInterface, setError_agree agree, setSocketState_agree agree, openDescriptor_agree agree,
    close_agree agree]

theorem exec_agree (c : Call) (s : Socket) : s.exec other c = s.exec slot c := by
  cases c <;>
    simp only [exec, connectToInterface_agree agree, close_agree agree, completeAsyncWrite_agree agree,
      waitForReadyRead, readyReadLoop_agree agree, waitForBytesWritten, bytesWrittenLoop_agree agree,
      setSocketOption_agree agree, readNotification_agree agree]

theorem execPublic_agree (c : PublicCall) (s : Socket) : s.execPublic other c = s.execPublic slot c := by
  cases c with
  | plain c => exact exec_agree agree c s
  | clearError => exact setError_agree agree _ s
  | disconnectFromInterface answer => exact close_agree agree answer s
  | setTxId id => simp only [execPublic, setTxId, setError_agree agree, setSocketOption_agree agree]
  | setRxId id => simp only [execPublic, setRxId, setError_agree agree, setSocketOption_agree agree]
  | connectToInterfaceWithIds interfaceName txId rxId mode env =>
    simp only [execPublic, connectToInterfaceWithIds, setTxId, setRxId, setError_agree agree, setSocketOption_agree agree,
      connectToInterface_agree agree]

end

end Socket

/-- The slots of the two signals are only ever run with the flag of their signal set. -/
theorem runsAt_flagged (slot : Slot) (c : PublicCall) (s : Socket) :
    CallRun.RunsAt (fun slot call s => s.execPublic slot call) slot c s Signal.Flagged :=
  fun _ agree => Socket.execPublic_agree agree c s

end CanSocket
