import CanSocket.Kernel

namespace CanSocket

inductive SocketError
  | unkownSocketError
  | noSuchDeviceError
  | socketAccessError
  | socketResourceError
  | socketTimeoutError
  | unsupportedSocketOperationError
  | operationError
  | writeError
  | readError
  | noError
deriving DecidableEq, Repr

inductive SocketState
  | unconnectedState
  | connectingState
  | connectedState
  | closingState
deriving DecidableEq, Repr

/-- The flags of `QIODevice::OpenMode`; none of them is `NotOpen`. -/
structure OpenMode where
  readOnly : Bool := false
  writeOnly : Bool := false
  append : Bool := false
  truncate : Bool := false
  text : Bool := false
  unbuffered : Bool := false
deriving DecidableEq, Repr

def OpenMode.notOpen : OpenMode := {}
def OpenMode.readWrite : OpenMode := { readOnly := true, writeOnly := true }

inductive ErrorString
  | text (message : String)
  | system (errno : Errno)
deriving DecidableEq, Repr

structure CanAbstractSocketErrorInfo where
  errorCode : SocketError
  errorString : ErrorString
deriving DecidableEq, Repr

structure CanRawFilter where
  id : UInt32 := 0
  mask : UInt32 := 0
deriving DecidableEq, Repr

inductive Loopback
  | disabledLoopback
  | enabledLoopback
  | undefinedLoopback
  | other (value : UnnamedValue)
deriving DecidableEq, Repr

inductive ReceiveOwnMessages
  | disabledOwnMessages
  | enabledOwnMessages
  | undefinedOwnMessages
  | other (value : UnnamedValue)
deriving DecidableEq, Repr

/-- The fields `CanRawSocketPrivate` adds, as its constructor sets them. -/
structure CanRawOptions where
  canFilter : List CanRawFilter := [{}]
  errorFilterMask : UInt32 := 0
  loopback : Loopback := .enabledLoopback
  receiveOwnMessages : ReceiveOwnMessages := .disabledOwnMessages
  flexibleDataRateFrames : FlexibleDataRateFrames := .disabledFdFrames
deriving DecidableEq, Repr

structure CanIsoTpOptions where
  flags : UInt32 := 0
  frameTxTime : UInt32
  extAddress : UInt8 := 0
  txPadContent : UInt8 := 0xCC
  rxPadContent : UInt8 := 0xCC
  rxExtAddress : UInt8 := 0
deriving DecidableEq, Repr

structure CanIsoTpFlowControlOptions where
  blockSize : UInt8 := 0
  stMin : UInt8 := 0
  wftMax : UInt8 := 0
deriving DecidableEq, Repr

structure CanIsoTpLinkLayerOptions where
  mtu : UInt8 := 16
  txDlen : UInt8 := 8
  txFdFlags : UInt8 := 0
deriving DecidableEq, Repr

/-- The fields `CanIsoTpSocketPrivate` adds. An object of an option class is given by what the cell its `d` points
to holds, `none` once that cell was released. -/
structure CanIsoTpFields where
  txId : UInt32 := 0
  rxId : UInt32 := 0
  isoTpOptions : Option CanIsoTpOptions
  flowControlOptions : Option CanIsoTpFlowControlOptions := some {}
  txMinSepTime : UInt32 := 0
  rxMinSepTime : UInt32 := 0
  linkLayerOptions : Option CanIsoTpLinkLayerOptions := some {}
deriving DecidableEq, Repr

/-- The fields as the constructor sets them; `CAN_ISOTP_DEFAULT_FRAME_TXTIME` is one of the kernel's header. -/
def CanIsoTpFields.initial (defaultFrameTxTime : UInt32) : CanIsoTpFields where
  isoTpOptions := some { frameTxTime := defaultFrameTxTime }

/-- Which of the two classes derived from `CanAbstractSocketPrivate` the object is. -/
inductive Protocol
  | raw (options : CanRawOptions)
  | isoTp (fields : CanIsoTpFields)
deriving DecidableEq, Repr

def Protocol.readChunkSize : Protocol → Int
  | .raw _ => 1152
  | .isoTp _ => 4096

inductive Signal
  | readyRead
  | bytesWritten (bytes : Int)
  | error (socketError : SocketError)
  | stateChanged (socketState : SocketState)
  | canFilterChanged
  | errorFilterMaskChanged
  | loopbackChanged
  | receiveOwnMessagesChanged
  | txIdChanged
  | rxIdChanged
  | isoTpOptionsChanged
  | flowControlOptionsChanged
  | txMinSepTimeChanged
  | rxMinSepTimeChanged
  | linkLayerOptionsChanged
deriving DecidableEq, Repr

/-- An option under its kernel name, with the value handed to `::setsockopt`. -/
inductive KernelOption
  | canRawFilter (filter : List CanRawFilter)
  | canRawErrFilter (mask : UInt32)
  | canRawLoopback (loopback : Loopback)
  | canRawRecvOwnMsgs (ownMessages : ReceiveOwnMessages)
  | canIsotpOpts (options : CanIsoTpOptions)
  | canIsotpRecvFc (options : CanIsoTpFlowControlOptions)
  | canIsotpTxStmin (nsecs : UInt32)
  | canIsotpRxStmin (nsecs : UInt32)
  | canIsotpLlOpts (options : CanIsoTpLinkLayerOptions)
deriving DecidableEq, Repr

/-- What `::select` answers: which descriptors are ready, a timeout, or a failure. -/
inductive SelectAnswer
  | ready (read write : Bool)
  | timeout
  | fail (errno : Errno)
deriving DecidableEq, Repr

/-- What can be seen of the object from outside, in the order it happens: bytes crossing its
interface, calls of its virtual transfer functions, calls of the kernel, and signals. -/
inductive Event
  | queued (data : List UInt8)
  | userRead (data : List UInt8)
  | writeToSocket (emitting : Bool) (block : List UInt8) (answers : List WriteAnswer)
  | freed (bytes : Int)
  | readFromSocket (bytesToRead : Int) (answers : List ReadAnswer)
  | read (descriptor space : Int) (call : ReadCall)
  | write (descriptor : Int) (call : WriteCall)
  | select (descriptor : Int) (checkRead checkWrite : Bool) (msecs : Int32) (answer : SelectAnswer)
  | opened (descriptor : Nat)
  | closed (descriptor : Int)
  | setsockopt (descriptor : Int) (option : KernelOption) (answer : Option Errno)
  | bind (descriptor : Int) (ids : Option (UInt32 × UInt32)) (answer : Option Errno)
  | signal (sig : Signal)
deriving DecidableEq, Repr

structure Notifier where
  descriptor : Int
  enabled : Bool
deriving DecidableEq, Repr

/-- The fields of the device, of `CanAbstractSocketPrivate` and of the derived class, as the
constructors set them, with the process's errno, the trace of the object, and the descriptors its notifiers were
made on, each with the length of the trace at that moment. -/
structure Socket where
  openMode : OpenMode := .notOpen
  buffer : List UInt8 := []
  readBufferMaxSize : Int := 0
  writeBuffer : List UInt8 := []
  error : SocketError := .noError
  errorString : ErrorString := .text ""
  state : SocketState := .unconnectedState
  interfaceName : String := ""
  descriptor : Int := -1
  readNotifier : Option Notifier := none
  writeNotifier : Option Notifier := none
  emittedReadyRead : Bool := false
  emittedBytesWritten : Bool := false
  pendingBytesWritten : Int := 0
  writeSequenceStarted : Bool := false
  protocol : Protocol
  errno : Errno := .other 0
  trace : List Event := []
  watched : List (Nat × Int) := []
deriving DecidableEq, Repr

/-- The slots connected to the object: what running them does to it. -/
abbrev Slot := Signal → Socket → Socket

def Slot.idle : Slot := fun _ s => s

def Slot.Keeps (slot : Slot) (Inv : Socket → Prop) : Prop := ∀ sig s, Inv s → Inv (slot sig s)

end CanSocket
