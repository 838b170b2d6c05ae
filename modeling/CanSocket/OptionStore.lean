import CanSocket.Mirror
import CanSocket.PublicCalls

namespace CanSocket

/-- What SocketCAN keeps for a kernel socket under the name of each option, at first the defaults
of a new one; of the three structures of CAN_ISOTP only what was stored is given. -/
structure KernelOptions where
  canRawFilter : List CanRawFilter := [{}]
  canRawErrFilter : UInt32 := 0
  canRawLoopback : Loopback := .enabledLoopback
  canRawRecvOwnMsgs : ReceiveOwnMessages := .disabledOwnMessages
  canIsotpOpts : Option CanIsoTpOptions := none
  canIsotpRecvFc : Option CanIsoTpFlowControlOptions := none
  canIsotpTxStmin : UInt32 := 0
  canIsotpRxStmin : UInt32 := 0
  canIsotpLlOpts : Option CanIsoTpLinkLayerOptions := none
deriving DecidableEq, Repr

def KernelOptions.set (k : KernelOptions) : KernelOption → KernelOptions
  | .canRawFilter filter => { k with canRawFilter := filter }
  | .canRawErrFilter mask => { k with canRawErrFilter := mask }
  | .canRawLoopback loopback => { k with canRawLoopback := loopback }
  | .canRawRecvOwnMsgs ownMessages => { k with canRawRecvOwnMsgs := ownMessages }
  | .canIsotpOpts options => { k with canIsotpOpts := some options }
  | .canIsotpRecvFc options => { k with canIsotpRecvFc := some options }
  | .canIsotpTxStmin nsecs => { k with canIsotpTxStmin := nsecs }
  | .canIsotpRxStmin nsecs => { k with canIsotpRxStmin := nsecs }
  | .canIsotpLlOpts options => { k with canIsotpLlOpts := some options }

/-- A kernel socket keeps every value it accepted until its descriptor is given out anew. -/
def KernelOptions.after (descriptor : Int) (k : KernelOptions) : Event → KernelOptions
  | .opened d => if (d : Int) = descriptor then {} else k
  | .setsockopt d option none => if d = descriptor then k.set option else k
  | _ => k

def kernelOptions (descriptor : Int) (trace : List Event) : KernelOptions :=
  trace.foldl (KernelOptions.after descriptor) {}

/-- The values `socketOption` reports, each under the kernel name of its own option; an object whose cell is
released has none to report. -/
def Protocol.reported : Protocol → KernelOptions
  | .raw o => {
      canRawFilter := o.canFilter
      canRawErrFilter := o.errorFilterMask
      canRawLoopback := o.loopback
      canRawRecvOwnMsgs := o.receiveOwnMessages }
  | .isoTp f => {
      canIsotpOpts := f.isoTpOptions
      canIsotpRecvFc := f.flowControlOptions
      canIsotpTxStmin := f.txMinSepTime
      canIsotpRxStmin := f.rxMinSepTime
      canIsotpLlOpts := f.linkLayerOptions }

/-- The value of an option put under its own kernel name; the addresses and the flexible data
rate have none. -/
def SocketOption.put (option : SocketOption) (k : KernelOptions) : KernelOptions :=
  match option with
  | .canFilterOption filter => { k with canRawFilter := filter }
  | .errorFilterMaskOption mask => { k with canRawErrFilter := mask }
  | .loopbackOption loopback => { k with canRawLoopback := loopback }
  | .receiveOwnMessagesOption ownMessages => { k with canRawRecvOwnMsgs := ownMessages }
  | .isoTpOptions options => { k with canIsotpOpts := some options.fields }
  | .flowControlOptions options => { k with canIsotpRecvFc := some options.fields }
  | .txMinSepTimeOption nsecs => { k with canIsotpTxStmin := nsecs }
  | .rxMinSepTimeOption nsecs => { k with canIsotpRxStmin := nsecs }
  | .linkLayerOptions options => { k with canIsotpLlOpts := some options.fields }
  | _ => k

def SocketOption.changed : SocketOption → Option Signal
  | .canFilterOption _ => some .canFilterChanged
  | .errorFilterMaskOption _ => some .errorFilterMaskChanged
  | .loopbackOption _ => some .loopbackChanged
  | .receiveOwnMessagesOption _ => some .receiveOwnMessagesChanged
  | .flexibleDataRateFramesOption _ => none
  | .txIdOption _ => some .txIdChanged
  | .rxIdOption _ => some .rxIdChanged
  | .isoTpOptions _ => some .isoTpOptionsChanged
  | .flowControlOptions _ => some .flowControlOptionsChanged
  | .txMinSepTimeOption _ => some .txMinSepTimeChanged
  | .rxMinSepTimeOption _ => some .rxMinSepTimeChanged
  | .linkLayerOptions _ => some .linkLayerOptionsChanged

def Signal.isChange : Signal → Bool
  | .readyRead => false
  | .bytesWritten _ => false
  | .error _ => false
  | .stateChanged _ => false
  | _ => true

namespace Protocol

/-- The field of an option is the one the setter of its class writes. -/
def assigned (p : Protocol) (option : SocketOption) : Protocol :=
  match p, option with
  | .raw o, .canFilterOption new => .raw { o with canFilter := new }
  | .raw o, .errorFilterMaskOption new => .raw { o with errorFilterMask := new }
  | .raw o, .loopbackOption new => .raw { o with loopback := new }
  | .raw o, .receiveOwnMessagesOption new => .raw { o with receiveOwnMessages := new }
  | .isoTp f, .txIdOption new => .isoTp { f with txId := new }
  | .isoTp f, .rxIdOption new => .isoTp { f with rxId := new }
  | .isoTp f, .isoTpOptions new => .isoTp { f with isoTpOptions := some new.fields }
  | .isoTp f, .flowControlOptions new => .isoTp { f with flowControlOptions := some new.fields }
  | .isoTp f, .txMinSepTimeOption new => .isoTp { f with txMinSepTime := new }
  | .isoTp f, .rxMinSepTimeOption new => .isoTp { f with rxMinSepTime := new }
  | .isoTp f, .linkLayerOptions new => .isoTp { f with linkLayerOptions := some new.fields }
  | _, _ => p

/-- The setters of the option classes go on to release the cell they had the field point to. -/
def released (p : Protocol) (option : SocketOption) : Protocol :=
  match p, option with
  | .isoTp f, .isoTpOptions _ => .isoTp { f with isoTpOptions := none }
  | .isoTp f, .flowControlOptions _ => .isoTp { f with flowControlOptions := none }
  | .isoTp f, .linkLayerOptions _ => .isoTp { f with linkLayerOptions := none }
  | _, _ => p

/-- What is left in the field when the setter has returned. -/
def store (p : Protocol) (option : SocketOption) : Protocol := (p.assigned option).released option

/-- The option and value the setter of the class hands to the kernel. -/
def kernelOption (p : Protocol) (option : SocketOption) : Option KernelOption :=
  match p, option with
  | .raw _, .canFilterOption new => some (.canRawFilter new)
  | .raw _, .errorFilterMaskOption new => some (.canRawErrFilter new)
  | .raw _, .loopbackOption new => some (.canRawLoopback new)
  | .raw _, .receiveOwnMessagesOption new => some (.canRawRecvOwnMsgs new)
  | .isoTp _, .isoTpOptions new => some (.canIsotpOpts new.fields)
  | .isoTp _, .flowControlOptions new => some (.canIsotpRecvFc new.fields)
  | .isoTp _, .txMinSepTimeOption new => some (.canIsotpTxStmin new)
  | .isoTp _, .rxMinSepTimeOption new => some (.canIsotpTxStmin new)
  | .isoTp _, .linkLayerOptions new => some (.canIsotpLlOpts new.fields)
  | _, _ => none

/-- Whether the setter finds the new value different from the stored one. -/
def differs (p : Protocol) (option : SocketOption) : Bool :=
  match p, option with
  | .raw o, .canFilterOption new => new ≠ o.canFilter
  | .raw o, .errorFilterMaskOption new => new ≠ o.errorFilterMask
  | .raw o, .loopbackOption new => new ≠ o.loopback
  | .raw o, .receiveOwnMessagesOption new => new ≠ o.receiveOwnMessages
  | .isoTp f, .txIdOption new => new ≠ f.txId
  | .isoTp f, .rxIdOption new => new ≠ f.rxId
  | .isoTp f, .txMinSepTimeOption new => new ≠ f.txMinSepTime
  | .isoTp f, .rxMinSepTimeOption new => new ≠ f.rxMinSepTime
  | .isoTp f, .isoTpOptions new => f.isoTpOptions.isSome || !new.reused
  | .isoTp f, .flowControlOptions new => f.flowControlOptions.isSome || !new.reused
  | .isoTp f, .linkLayerOptions new => f.linkLayerOptions.isSome || !new.reused
  | _, _ => false

/-- The signals of an option set in vain or anew. -/
def announces (p : Protocol) (option : SocketOption) : List Event :=
  if p.differs option then option.changed.toList.map Event.signal else []

theorem released_of_not_differs {p : Protocol} {option : SocketOption} (same : p.differs option = false) :
    p.released option = p := by
  cases p with
  | raw o => rfl
  | isoTp f =>
    obtain ⟨txId, rxId, options, flowControl, txTime, rxTime, linkLayer⟩ := f
    cases option <;> simp_all [differs, released]

theorem assigned_of_not_differs {p : Protocol} {option : SocketOption} (same : p.differs option = false) :
    (p.assigned option).released option = p.released option := by
  cases p <;> cases option <;> simp_all [differs, assigned, released]

theorem store_of_not_differs {p : Protocol} {option : SocketOption} (same : p.differs option = false) :
    p.store option = p :=
  (assigned_of_not_differs same).trans (released_of_not_differs same)

theorem differs_raw (o : CanRawOptions) (option : SocketOption) :
    (Protocol.raw o).differs option = true ↔ (Protocol.raw o).store option ≠ .raw o := by
  obtain ⟨filter, mask, loopback, ownMessages, fdFrames⟩ := o
  cases option <;> simp [differs, store, assigned, released]

theorem reported_store_nameless {p : Protocol} {option : SocketOption} (nameless : p.kernelOption option = none) :
    (p.store option).reported = p.reported := by
  cases p <;> cases option <;> first | rfl | cases nameless

theorem reported_store_raw {o : CanRawOptions} {option : SocketOption} {kernel : KernelOption}
    (asks : (Protocol.raw o).kernelOption option = some kernel) :
    ((Protocol.raw o).store option).reported = option.put (Protocol.raw o).reported := by
  cases option <;> first | rfl | cases asks

end Protocol

def Event.onOptions : Event → Bool
  | .opened _ => true
  | .setsockopt .. => true
  | .bind .. => true
  | .signal sig => sig.isChange
  | _ => false

/-- The part of a socket that concerns its options. -/
structure OptionView where
  state : SocketState
  descriptor : Int
  protocol : Protocol
  trace : List Event

def OptionView.log (events : List Event) (v : OptionView) : OptionView :=
  { v with trace := v.trace ++ events }

theorem kernelOptions_filter (descriptor : Int) (trace : List Event) :
    kernelOptions descriptor (trace.filter Event.onOptions) = kernelOptions descriptor trace := by
  have silent : (fun k e => if e.onOptions = true then KernelOptions.after descriptor k e else k) =
      KernelOptions.after descriptor := by
    funext k e
    cases e <;> first | rfl | (split <;> rfl)
  rw [kernelOptions, List.foldl_filter, silent]
  rfl

theorem kernelOptions_append (descriptor : Int) (before after : List Event) :
    kernelOptions descriptor (before ++ after) =
      after.foldl (KernelOptions.after descriptor) (kernelOptions descriptor before) :=
  List.foldl_append

namespace Socket

theorem releaseCopy_eq {option : SocketOption} {release : CanIsoTpFields → CanIsoTpFields}
    (releases : ∀ f, (Protocol.isoTp f).released option = .isoTp (release f))
    (keeps : ∀ o, (Protocol.raw o).released option = .raw o) (r : Bool × Socket) :
    releaseCopy release r = (r.1, if r.1 then { r.2 with protocol := r.2.protocol.released option } else r.2) := by
  obtain ⟨granted, t⟩ := r
  cases granted with
  | false => cases t.protocol <;> rfl
  | true =>
    cases eq : t.protocol with
    | raw o =>
      have same : { t with protocol := (Protocol.raw o).released option } = t := by rw [keeps, ← eq]
      simp only [releaseCopy, eq, same, if_true]
    | isoTp f => simp only [releaseCopy, eq, releases, withIsoTp, if_true]

def optionView (s : Socket) : OptionView :=
  ⟨s.state, s.descriptor, s.protocol, s.trace.filter Event.onOptions⟩

theorem kernelOptions_of_optionView {s t : Socket} (descriptor : Int)
    (same : t.trace.filter Event.onOptions = s.trace.filter Event.onOptions) :
    kernelOptions descriptor t.trace = kernelOptions descriptor s.trace := by
  rw [← kernelOptions_filter, same, kernelOptions_filter]

theorem optionView_log {e : Event} (other : e.onOptions = false) (s : Socket) :
    (s.log e).optionView = s.optionView := by
  simp [optionView, log, other]

theorem optionView_log_on {e : Event} (on : e.onOptions = true) (s : Socket) :
    (s.log e).optionView = s.optionView.log [e] := by
  simp [optionView, log, on, OptionView.log]

@[simp] theorem optionView_setError (info : CanAbstractSocketErrorInfo) (s : Socket) :
    (s.setError Slot.idle info).optionView = s.optionView := optionView_log rfl _

@[simp] theorem optionView_setSystemError (e : Errno) (s : Socket) :
    (s.setSystemError Slot.idle e).optionView = s.optionView := optionView_setError _ _

theorem optionView_setSocketState (socketState : SocketState) (s : Socket) :
    (s.setSocketState Slot.idle socketState).optionView =
      { s.optionView with state := socketState } := by
  unfold setSocketState
  split
  next => exact optionView_log rfl _
  next => rfl

theorem optionView_setRead (enable : Bool) (s : Socket) :
    (s.setReadNotificationEnabled enable).optionView = s.optionView := by
  obtain ⟨made, eq⟩ := s.setRead_eq enable
  rw [eq]
  rfl

theorem optionView_closeDescriptor (answer : Option Errno) (s : Socket) :
    (s.closeDescriptor Slot.idle answer).optionView = { s.optionView with descriptor := -1 } := by
  have reset : ∀ t : Socket, t.optionView = s.optionView → ({ t with
      interfaceName := "", descriptor := -1, pendingBytesWritten := 0,
      writeSequenceStarted := false } : Socket).optionView = { s.optionView with descriptor := -1 } :=
    fun t same => congrArg (fun v : OptionView => { v with descriptor := -1 }) same
  have closed : (({ s with readNotifier := none, writeNotifier := none }).log
      (.closed s.descriptor)).optionView = s.optionView := optionView_log rfl _
  unfold closeDescriptor
  apply reset
  split
  next =>
    cases answer with
    | none => exact closed
    | some e => exact (optionView_setSystemError e _).trans closed
  next => rfl

theorem optionView_close {s : Socket} (connection : s.state ≠ .unconnectedState) (answer : Option Errno) :
    (s.close Slot.idle answer).optionView =
      { s.optionView with state := .unconnectedState, descriptor := -1 } := by
  unfold close
  rw [if_neg connection]
  dsimp only
  rw [optionView_setSocketState, optionView_closeDescriptor, optionView_setSocketState]
  rfl

/-- What `setSocketOption` comes to with no slot connected: the option is not one of the class or
not available, the kernel refuses it, the field is stored without the kernel, or the kernel
takes the value and the field is stored. -/
inductive SetsOption (option : SocketOption) (answer : Option Errno) (s : Socket) : Bool × Socket → Prop
  | refused : s.protocol.kernelOption option = none → SetsOption option answer s (false, s)
  | rejected (kernel : KernelOption) (e : Errno) (t : Socket) :
      s.protocol.kernelOption option = some kernel → s.descriptor = -1 ∨ answer = some e →
      t.optionView = s.optionView.log [.setsockopt s.descriptor kernel (some e)] →
      SetsOption option answer s (false, t)
  | stored (t : Socket) : s.protocol.kernelOption option = none → (∀ k, option.put k = k) →
      t.optionView = { s.optionView.log (s.protocol.announces option) with
        protocol := s.protocol.store option } →
      SetsOption option answer s (true, t)
  | granted (kernel : KernelOption) (t : Socket) : s.protocol.kernelOption option = some kernel →
      s.descriptor ≠ -1 → answer = none →
      t.optionView = { s.optionView.log (.setsockopt s.descriptor kernel none ::
        s.protocol.announces option) with protocol := s.protocol.store option } →
      SetsOption option answer s (true, t)

/-- A granted option whose destructor is still to run. -/
def Assigns (option : SocketOption) (answer : Option Errno) (s : Socket) : Bool × Socket → Prop
  | (false, t) => ∃ kernel e, s.protocol.kernelOption option = some kernel ∧ (s.descriptor = -1 ∨ answer = some e) ∧
      t.optionView = s.optionView.log [.setsockopt s.descriptor kernel (some e)]
  | (true, t) => ∃ kernel, s.protocol.kernelOption option = some kernel ∧ s.descriptor ≠ -1 ∧ answer = none ∧
      t.optionView = { s.optionView.log (.setsockopt s.descriptor kernel none :: s.protocol.announces option) with
        protocol := if s.protocol.differs option then s.protocol.assigned option else s.protocol }

theorem applyOption_assigns {p : Protocol} {option : SocketOption} {kernel : KernelOption}
    {store : Socket → Socket} {changed : Signal} {s : Socket} (is : s.protocol = p) (answer : Option Errno)
    (asks : p.kernelOption option = some kernel)
    (stores : ∀ t : Socket, store t = { t with protocol := p.assigned option })
    (change : option.changed = some changed) (on : changed.isChange = true) :
    Assigns option answer s (s.applyOption Slot.idle kernel answer (p.differs option) store changed) := by
  subst is
  have asked : ∀ answer, (s.log (.setsockopt s.descriptor kernel answer)).optionView =
      s.optionView.log [.setsockopt s.descriptor kernel answer] := fun _ => optionView_log_on rfl s
  unfold applyOption setsockopt
  by_cases descriptor : s.descriptor = -1
  · simp only [if_pos descriptor]
    exact ⟨kernel, .EBADF, asks, Or.inl descriptor, (optionView_setSystemError _ _).trans (asked _)⟩
  · simp only [if_neg descriptor]
    cases answer with
    | some e => exact ⟨kernel, e, asks, Or.inr rfl, (optionView_setSystemError _ _).trans (asked _)⟩
    | none =>
      have assigned : (store (s.log (.setsockopt s.descriptor kernel none))).optionView =
          { s.optionView.log [.setsockopt s.descriptor kernel none] with
            protocol := s.protocol.assigned option } := by
        rw [stores, ← asked]
        rfl
      dsimp only
      split
      next differs =>
        refine ⟨kernel, asks, descriptor, rfl, ?_⟩
        have announces : s.protocol.announces option = [.signal changed] := by
          simp [Protocol.announces, differs, change]
        have emitted := optionView_log_on (e := .signal changed) on
          (store (s.log (.setsockopt s.descriptor kernel none)))
        rw [assigned] at emitted
        rw [announces, if_pos differs]
        refine emitted.trans ?_
        simp [OptionView.log]
      next same =>
        refine ⟨kernel, asks, descriptor, rfl, ?_⟩
        have announces : s.protocol.announces option = [] := by simp [Protocol.announces, same]
        rw [announces, if_neg same, asked]
        rfl

/-- The release of the copy of an option class completes what was assigned. -/
theorem Assigns.sets {option : SocketOption} {answer : Option Errno} {s : Socket} {r r' : Bool × Socket}
    (h : Assigns option answer s r) (ends : r' = (r.1, if r.1 then
      { r.2 with protocol := r.2.protocol.released option } else r.2)) : SetsOption option answer s r' := by
  subst ends
  obtain ⟨granted, t⟩ := r
  cases granted with
  | false =>
    obtain ⟨kernel, e, asks, refused, view⟩ := h
    exact .rejected kernel e t asks refused view
  | true =>
    obtain ⟨kernel, asks, descriptor, answered, view⟩ := h
    have stored : t.protocol.released option = s.protocol.store option := by
      rw [show t.protocol = _ from congrArg OptionView.protocol view]
      split
      next => rfl
      next same =>
        have same : s.protocol.differs option = false := by simpa using same
        rw [Protocol.released_of_not_differs same, Protocol.store_of_not_differs same]
    refine .granted kernel _ asks descriptor answered ?_
    rw [← stored]
    exact congrArg (fun v : OptionView => { v with protocol := t.protocol.released option }) view

theorem applyOption_sets {p : Protocol} {option : SocketOption} {kernel : KernelOption}
    {store : Socket → Socket} {changed : Signal} {s : Socket} (is : s.protocol = p) (answer : Option Errno)
    (asks : p.kernelOption option = some kernel)
    (stores : ∀ t : Socket, store t = { t with protocol := p.assigned option })
    (change : option.changed = some changed) (on : changed.isChange = true)
    (plain : ∀ q : Protocol, q.released option = q) :
    SetsOption option answer s
      (s.applyOption Slot.idle kernel answer (p.differs option) store changed) := by
  refine (applyOption_assigns is answer asks stores change on).sets ?_
  simp [plain]

theorem releaseCopy_sets {p : Protocol} {option : SocketOption} {kernel : KernelOption}
    {store : Socket → Socket} {changed : Signal} {s : Socket} (is : s.protocol = p) (answer : Option Errno)
    (asks : p.kernelOption option = some kernel)
    (stores : ∀ t : Socket, store t = { t with protocol := p.assigned option })
    (change : option.changed = some changed) (on : changed.isChange = true)
    {release : CanIsoTpFields → CanIsoTpFields} (releases : ∀ f, (Protocol.isoTp f).released option = .isoTp (release f))
    (keeps : ∀ o, (Protocol.raw o).released option = .raw o) :
    SetsOption option answer s
      (releaseCopy release (s.applyOption Slot.idle kernel answer (p.differs option) store changed)) :=
  (applyOption_assigns is answer asks stores change on).sets (releaseCopy_eq releases keeps _)

theorem storeId_sets {p : Protocol} {option : SocketOption} {changed : Signal} {s : Socket} {new : Prop}
    [Decidable new] (is : s.protocol = p) (answer : Option Errno) (asks : p.kernelOption option = none)
    (nameless : ∀ k, option.put k = k) (differs : p.differs option = decide new) (change : option.changed = some changed)
    (on : changed.isChange = true) :
    SetsOption option answer s
      (if new then (true, ({ s with protocol := p.store option } : Socket).emit Slot.idle changed)
      else (true, s)) := by
  subst is
  split
  next other =>
    refine .stored _ asks nameless ?_
    have announces : s.protocol.announces option = [.signal changed] := by
      simp [Protocol.announces, differs, other, change]
    rw [announces]
    exact optionView_log_on (e := .signal changed) on { s with protocol := s.protocol.store option }
  next same =>
    have same : s.protocol.differs option = false := by simp [differs, same]
    refine .stored s asks nameless ?_
    simp [Protocol.announces, same, Protocol.store_of_not_differs, OptionView.log, optionView]

theorem setRawOption_sets {o : CanRawOptions} {s : Socket} (raw : s.protocol = .raw o)
    (option : SocketOption) (answer : Option Errno) :
    SetsOption option answer s (s.setRawOption Slot.idle o option answer) := by
  cases option with
  | canFilterOption new => exact applyOption_sets raw answer rfl (fun _ => rfl) rfl rfl fun q => by cases q <;> rfl
  | errorFilterMaskOption new => exact applyOption_sets raw answer rfl (fun _ => rfl) rfl rfl fun q => by cases q <;> rfl
  | loopbackOption new => exact applyOption_sets raw answer rfl (fun _ => rfl) rfl rfl fun q => by cases q <;> rfl
  | receiveOwnMessagesOption new => exact applyOption_sets raw answer rfl (fun _ => rfl) rfl rfl fun q => by cases q <;> rfl
  | flexibleDataRateFramesOption new =>
    unfold setRawOption
    dsimp only
    split
    next => exact .refused (by rw [raw]; rfl)
    next =>
      refine .stored s (by rw [raw]; rfl) (fun _ => rfl) ?_
      simp [raw, Protocol.announces, Protocol.differs, Protocol.store, Protocol.assigned, Protocol.released,
        OptionView.log, optionView]
  | _ => exact .refused (by rw [raw]; rfl)

theorem setIsoTpOption_sets {f : CanIsoTpFields} {s : Socket} (isoTp : s.protocol = .isoTp f)
    (option : SocketOption) (answer : Option Errno) :
    SetsOption option answer s (s.setIsoTpOption Slot.idle f option answer) := by
  cases option with
  | txIdOption new => exact storeId_sets isoTp answer rfl (fun _ => rfl) rfl rfl rfl
  | rxIdOption new => exact storeId_sets isoTp answer rfl (fun _ => rfl) rfl rfl rfl
  | isoTpOptions new => exact releaseCopy_sets isoTp answer rfl (fun _ => rfl) rfl rfl (fun _ => rfl) fun _ => rfl
  | flowControlOptions new => exact releaseCopy_sets isoTp answer rfl (fun _ => rfl) rfl rfl (fun _ => rfl) fun _ => rfl
  | txMinSepTimeOption new => exact applyOption_sets isoTp answer rfl (fun _ => rfl) rfl rfl fun q => by cases q <;> rfl
  | rxMinSepTimeOption new => exact applyOption_sets isoTp answer rfl (fun _ => rfl) rfl rfl fun q => by cases q <;> rfl
  | linkLayerOptions new => exact releaseCopy_sets isoTp answer rfl (fun _ => rfl) rfl rfl (fun _ => rfl) fun _ => rfl
  | _ => exact .refused (by rw [isoTp]; rfl)

theorem setSocketOption_sets (option : SocketOption) (answer : Option Errno) (s : Socket) :
    SetsOption option answer s (s.setSocketOption Slot.idle option answer) := by
  unfold setSocketOption
  split
  next o raw => exact setRawOption_sets raw option answer
  next f isoTp => exact setIsoTpOption_sets isoTp option answer

end Socket

end CanSocket
