import CanSocket.SocketTransfer

namespace CanSocket

/-- The copy of an option object a case of `setSocketOption` works on: what its cell holds, and whether the allocator
made that cell where there was one that the stored object points to and that is released. -/
structure OptionsCopy (α : Type) where
  fields : α
  reused : Bool := false
deriving DecidableEq, Repr

/-- An option of either class with the value `setSocketOption` gets for it, converted. -/
inductive SocketOption
  | canFilterOption (filter : List CanRawFilter)
  | errorFilterMaskOption (mask : UInt32)
  | loopbackOption (loopback : Loopback)
  | receiveOwnMessagesOption (ownMessages : ReceiveOwnMessages)
  | flexibleDataRateFramesOption (fdFrames : FlexibleDataRateFrames)
  | txIdOption (id : UInt32)
  | rxIdOption (id : UInt32)
  | isoTpOptions (options : OptionsCopy CanIsoTpOptions)
  | flowControlOptions (options : OptionsCopy CanIsoTpFlowControlOptions)
  | txMinSepTimeOption (nsecs : UInt32)
  | rxMinSepTimeOption (nsecs : UInt32)
  | linkLayerOptions (options : OptionsCopy CanIsoTpLinkLayerOptions)
deriving DecidableEq, Repr

/-- The kernel's answers to the steps of `connectToInterface`, and to the `::close` that
follows a failed one; `setsockopt` is asked once for each option set, counted from 0. The last three
are what the copies of stored option objects come to whose cells are released. -/
structure ConnectEnv where
  socket : Except Errno Nat
  fcntl : Option Errno := none
  ifindex : Option Errno := none
  setsockopt : Nat → Option Errno := fun _ => none
  bind : Option Errno := none
  close : Option Errno := none
  isoTpOptions : OptionsCopy CanIsoTpOptions := ⟨{ frameTxTime := 0 }, false⟩
  flowControlOptions : OptionsCopy CanIsoTpFlowControlOptions := ⟨{}, false⟩
  linkLayerOptions : OptionsCopy CanIsoTpLinkLayerOptions := ⟨{}, false⟩

/-- The copy made of a stored object. -/
def OptionsCopy.copied {α : Type} (stored : Option α) (released : OptionsCopy α) : OptionsCopy α :=
  { released with fields := stored.getD released.fields }

def OpenMode.supported (mode : OpenMode) : Bool :=
  !(mode.append || mode.truncate || mode.text || mode.unbuffered) && mode != .notOpen

def Protocol.bindIds : Protocol → Option (UInt32 × UInt32)
  | .raw _ => none
  | .isoTp f => some (f.txId, f.rxId)

namespace Socket

/-- `::setsockopt` on the descriptor, which fails on descriptor -1. -/
def setsockopt (option : KernelOption) (answer : Option Errno) (s : Socket) : Option Errno × Socket :=
  let answer := if s.descriptor = -1 then some .EBADF else answer
  (answer, s.log (.setsockopt s.descriptor option answer))

/-- One branch of the two `setSocketOption`s: ask the kernel, then store and announce a new value. -/
def applyOption (slot : Slot) (option : KernelOption) (answer : Option Errno) (differs : Bool)
    (store : Socket → Socket) (changed : Signal) (s : Socket) : Bool × Socket :=
  match s.setsockopt option answer with
  | (some e, s) => (false, s.setSystemError slot e)
  | (none, s) => if differs then (true, (store s).emit slot changed) else (true, s)

def withRaw (options : CanRawOptions) (s : Socket) : Socket := { s with protocol := .raw options }

def withIsoTp (fields : CanIsoTpFields) (s : Socket) : Socket := { s with protocol := .isoTp fields }

/-- `CanRawSocketPrivate::setSocketOption`. `CAN_RAW_FD_FRAMES` is an enumerator of the kernel
header and no macro, so the branch compiled for the FD option is the one without kernel call. -/
def setRawOption (slot : Slot) (o : CanRawOptions) (option : SocketOption) (answer : Option Errno)
    (s : Socket) : Bool × Socket :=
  match option with
  | .canFilterOption new =>
    s.applyOption slot (.canRawFilter new) answer (new ≠ o.canFilter)
      (withRaw { o with canFilter := new }) .canFilterChanged
  | .errorFilterMaskOption new =>
    s.applyOption slot (.canRawErrFilter new) answer (new ≠ o.errorFilterMask)
      (withRaw { o with errorFilterMask := new }) .errorFilterMaskChanged
  | .loopbackOption new =>
    s.applyOption slot (.canRawLoopback new) answer (new ≠ o.loopback)
      (withRaw { o with loopback := new }) .loopbackChanged
  | .receiveOwnMessagesOption new =>
    s.applyOption slot (.canRawRecvOwnMsgs new) answer (new ≠ o.receiveOwnMessages)
      (withRaw { o with receiveOwnMessages := new }) .receiveOwnMessagesChanged
  | .flexibleDataRateFramesOption new => if new = .enabledFdFrames then (false, s) else (true, s)
  | _ => (false, s)

/-- The end of a case that came to a granted option: the destructor of its copy releases the cell to which the stored
object points from then on. -/
def releaseCopy (release : CanIsoTpFields → CanIsoTpFields) (r : Bool × Socket) : Bool × Socket :=
  match r.1, r.2.protocol with
  | true, .isoTp f => (true, r.2.withIsoTp (release f))
  | _, _ => r

/-- `CanIsoTpSocketPrivate::setSocketOption`. The option classes compare the addresses of their
private parts, so a copy differs from the stored object unless it took the place of a released one, and the
assignment has the stored object point to the cell of the copy. Both separation times go to the kernel under the
name of the transmit one. -/
def setIsoTpOption (slot : Slot) (f : CanIsoTpFields) (option : SocketOption) (answer : Option Errno)
    (s : Socket) : Bool × Socket :=
  match option with
  | .txIdOption new =>
    if new ≠ f.txId then (true, (s.withIsoTp { f with txId := new }).emit slot .txIdChanged)
    else (true, s)
  | .rxIdOption new =>
    if new ≠ f.rxId then (true, (s.withIsoTp { f with rxId := new }).emit slot .rxIdChanged)
    else (true, s)
  | .isoTpOptions new =>
    releaseCopy (fun f => { f with isoTpOptions := none })
      (s.applyOption slot (.canIsotpOpts new.fields) answer (f.isoTpOptions.isSome || !new.reused)
        (withIsoTp { f with isoTpOptions := some new.fields }) .isoTpOptionsChanged)
  | .flowControlOptions new =>
    releaseCopy (fun f => { f with flowControlOptions := none })
      (s.applyOption slot (.canIsotpRecvFc new.fields) answer (f.flowControlOptions.isSome || !new.reused)
        (withIsoTp { f with flowControlOptions := some new.fields }) .flowControlOptionsChanged)
  | .txMinSepTimeOption new =>
    s.applyOption slot (.canIsotpTxStmin new) answer (new ≠ f.txMinSepTime)
      (withIsoTp { f with txMinSepTime := new }) .txMinSepTimeChanged
  | .rxMinSepTimeOption new =>
    s.applyOption slot (.canIsotpTxStmin new) answer (new ≠ f.rxMinSepTime)
      (withIsoTp { f with rxMinSepTime := new }) .rxMinSepTimeChanged
  | .linkLayerOptions new =>
    releaseCopy (fun f => { f with linkLayerOptions := none })
      (s.applyOption slot (.canIsotpLlOpts new.fields) answer (f.linkLayerOptions.isSome || !new.reused)
        (withIsoTp { f with linkLayerOptions := some new.fields }) .linkLayerOptionsChanged)
  | _ => (false, s)

def setSocketOption (slot : Slot) (option : SocketOption) (answer : Option Errno) (s : Socket) :
    Bool × Socket :=
  match s.protocol with
  | .raw o => s.setRawOption slot o option answer
  | .isoTp f => s.setIsoTpOption slot f option answer

/-- The options `connectToInterface` sets, in its order, read from the fields as they are
when their turn comes. -/
def connectOptions (env : ConnectEnv) : List (Protocol → SocketOption) :=
  [fun p => match p with
    | .raw o => .canFilterOption o.canFilter
    | .isoTp f => .isoTpOptions (.copied f.isoTpOptions env.isoTpOptions),
  fun p => match p with
    | .raw o => .errorFilterMaskOption o.errorFilterMask
    | .isoTp f => .flowControlOptions (.copied f.flowControlOptions env.flowControlOptions),
  fun p => match p with
    | .raw o => .loopbackOption o.loopback
    | .isoTp _ => .txMinSepTimeOption 0,
  fun p => match p with
    | .raw o => .receiveOwnMessagesOption o.receiveOwnMessages
    | .isoTp _ => .rxMinSepTimeOption 0,
  fun p => match p with
    | .raw o => .flexibleDataRateFramesOption o.flexibleDataRateFrames
    | .isoTp f => .linkLayerOptions (.copied f.linkLayerOptions env.linkLayerOptions)]

/-- The chain of `setSocketOption`s of a connect, up to the first that fails. -/
def replayOptions (slot : Slot) (answers : Nat → Option Errno) :
    List (Protocol → SocketOption) → Nat → Socket → Bool × Socket
  | [], _, s => (true, s)
  | option :: options, i, s =>
    match s.setSocketOption slot (option s.protocol) (answers i) with
    | (false, s) => (false, s)
    | (true, s) => replayOptions slot answers options (i + 1) s

/-- The private `connectToInterface` of both classes. -/
def openDescriptor (slot : Slot) (interfaceName : String) (env : ConnectEnv) (s : Socket) :
    Bool × Socket :=
  let ids := s.protocol.bindIds
  match env.socket with
  | .error e => (false, ({ s with descriptor := -1 }).setSystemError slot e)
  | .ok descriptor =>
    let s := ({ s with descriptor := descriptor }).log (.opened descriptor)
    match env.fcntl with
    | some e => (false, s.setSystemError slot e)
    | none =>
      match if interfaceName = "" then none else env.ifindex with
      | some e => (false, s.setSystemError slot e)
      | none =>
        match s.replayOptions slot env.setsockopt (connectOptions env) 0 with
        | (false, s) => (false, s)
        | (true, s) =>
          let answer := if s.descriptor = -1 then some .EBADF else env.bind
          let s := s.log (.bind s.descriptor ids answer)
          match answer with
          | some e => (false, s.setSystemError slot e)
          | none => (true, s)

/-- `CanAbstractSocketPrivate::disconnectFromInterface`. -/
def closeDescriptor (slot : Slot) (answer : Option Errno) (s : Socket) : Socket :=
  let s := { s with readNotifier := none, writeNotifier := none }
  let s :=
    if 0 < s.descriptor then
      let s := s.log (.closed s.descriptor)
      match answer with
      | some e => s.setSystemError slot e
      | none => s
    else s
  { s with interfaceName := "", descriptor := -1, pendingBytesWritten := 0, writeSequenceStarted := false }

/-- `CanAbstractSocket::close`, which `disconnectFromInterface` calls. -/
def close (slot : Slot) (answer : Option Errno) (s : Socket) : Socket :=
  if s.state = .unconnectedState then s
  else
    let s := { s with openMode := .notOpen, buffer := [], errorString := .text "" }
    let s := s.setSocketState slot .closingState
    let s := s.closeDescriptor slot answer
    s.setSocketState slot .unconnectedState

def connectToInterface (slot : Slot) (interfaceName : String) (mode : OpenMode) (env : ConnectEnv)
    (s : Socket) : Bool × Socket :=
  if s.state ≠ .unconnectedState then
    (false, s.setError slot ⟨.operationError, .text "Trying to connect while connection is in progress"⟩)
  else if !mode.supported then
    (false, s.setError slot ⟨.unsupportedSocketOperationError, .text "Unsupported open mode"⟩)
  else
    let s := { s with
      interfaceName := interfaceName
      state := .unconnectedState
      buffer := []
      writeBuffer := []
      openMode := mode }
    let s := s.setSocketState slot .connectingState
    match s.openDescriptor slot interfaceName env with
    | (false, s) => (false, s.close slot env.close)
    | (true, s) =>
      let s := if mode.readOnly then s.setReadNotificationEnabled true else s
      (true, s.setSocketState slot .connectedState)

end Socket

end CanSocket
