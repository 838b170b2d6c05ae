import CanSocket.Dialogue
import CanSocket.OptionReplay

namespace CanSocket

open Dialogue

/-- What a connect does step by step: the calls of the kernel that are seen, the answer to the last of them, and what
is announced and stored when it is granted. A step refused with no errno is one the class does not offer. -/
structure ConnectStep where
  calls : List Event := []
  refusal : Option (Option Errno)
  announced : List Event := []
  stored : Protocol → Protocol := id

def errorSignal (e : Errno) : Event := .signal (.error (getSystemError e).errorCode)

def ConnectStep.events (step : ConnectStep) : List Event :=
  step.calls ++ match step.refusal with
    | none => step.announced
    | some e => e.toList.map errorSignal

def ConnectStep.protocol (step : ConnectStep) (p : Protocol) : Protocol :=
  match step.refusal with
  | none => step.stored p
  | some _ => p

/-- One option of a connect, on the fields the options before it left. -/
def optionStep (descriptor : Nat) (p : Protocol) (option : SocketOption) (answer : Option Errno) : ConnectStep where
  calls := (p.kernelOption option).toList.map fun kernel => .setsockopt descriptor kernel answer
  refusal := match p.kernelOption option with
    | some _ => answer.map some
    | none => if option = .flexibleDataRateFramesOption .enabledFdFrames then some none else none
  announced := p.announces option
  stored := fun p => p.store option

def optionSteps (descriptor : Nat) (answers : Nat → Option Errno) :
    List (Protocol → SocketOption) → Nat → Protocol → List ConnectStep
  | [], _, _ => []
  | option :: options, i, p =>
    optionStep descriptor p (option p) (answers i) ::
      optionSteps descriptor answers options (i + 1) (p.store (option p))

/-- The steps of a connect to this interface by an object with these fields. -/
def connectSteps (interfaceName : String) (env : ConnectEnv) (p : Protocol) : List ConnectStep :=
  match env.socket with
  | .error e => [{ refusal := some (some e) }]
  | .ok d =>
    [{ calls := [.opened d], refusal := none }, { refusal := env.fcntl.map some }] ++
      (if interfaceName = "" then [] else [{ refusal := env.ifindex.map some }]) ++
      optionSteps d env.setsockopt (Socket.connectOptions env) 0 p ++
      [{ calls := [.bind d p.bindIds env.bind], refusal := env.bind.map some }]

def ConnectEnv.descriptor (env : ConnectEnv) : Int :=
  match env.socket with
  | .error _ => -1
  | .ok d => d

/-- The errno of the `::close` that a given up connect ends with. -/
def ConnectEnv.closingFailure (env : ConnectEnv) : Option Errno := if 0 < env.descriptor then env.close else none

def ConnectEnv.closingEvents (env : ConnectEnv) : List Event :=
  .signal (.stateChanged .closingState) :: (if 0 < env.descriptor then [.closed env.descriptor] else []) ++
    env.closingFailure.toList.map errorSignal ++ [.signal (.stateChanged .unconnectedState)]

/-- What a connect that came through its steps leaves of `s`. -/
structure ConnectedBy (steps : List ConnectStep) (interfaceName : String) (mode : OpenMode) (env : ConnectEnv)
    (s t : Socket) : Prop where
  state : t.state = .connectedState
  descriptor : env.socket = .ok t.descriptor.toNat ∧ 0 ≤ t.descriptor
  device : t.openMode = mode ∧ t.interfaceName = interfaceName ∧ t.buffer = [] ∧ t.writeBuffer = []
  error : t.error = s.error ∧ t.errorString = s.errorString
  protocol : t.protocol = s.protocol.replayed
  reading : mode.readOnly = true → t.isReadNotificationEnabled = true
  trace : t.trace = s.trace ++ .signal (.stateChanged .connectingState) :: steps.flatMap ConnectStep.events ++
    [.signal (.stateChanged .connectedState)]

/-- What a connect that tried these steps and was refused the last leaves of `s`. -/
structure GivenUpAfter (tried : List ConnectStep) (cause : Option Errno) (env : ConnectEnv) (s t : Socket) : Prop where
  state : t.state = .unconnectedState
  descriptor : t.descriptor = -1
  device : t.openMode = .notOpen ∧ t.interfaceName = "" ∧ t.buffer = [] ∧ t.writeBuffer = []
  notifiers : t.readNotifier = none ∧ t.writeNotifier = none
  error : t.error = ((env.closingFailure <|> cause).map fun e => (getSystemError e).errorCode).getD s.error
  errorString : t.errorString = (env.closingFailure.map fun e => (getSystemError e).errorString).getD (.text "")
  protocol : t.protocol = tried.foldl (fun p step => step.protocol p) s.protocol
  trace : t.trace = s.trace ++ .signal (.stateChanged .connectingState) :: tried.flatMap ConnectStep.events ++
    env.closingEvents

namespace Socket

/-- What a failure of the kernel leaves behind. -/
def blame (cause : Option Errno) (s : Socket) : Socket := { s with
  errno := cause.getD s.errno
  error := (cause.map fun e => (getSystemError e).errorCode).getD s.error
  errorString := (cause.map fun e => (getSystemError e).errorString).getD s.errorString }

@[simp] theorem blame_none (s : Socket) : s.blame none = s := rfl

/-- A step of a connect, taken with no slot connected. -/
def undergo (step : ConnectStep) (s : Socket) : Socket :=
  ({ s with trace := s.trace ++ step.events, protocol := step.protocol s.protocol } : Socket).blame step.refusal.join

theorem undergo_descriptor (step : ConnectStep) (s : Socket) : (s.undergo step).descriptor = s.descriptor := rfl

theorem undergo_granted {step : ConnectStep} (granted : step.refusal = none) (s : Socket) :
    (s.undergo step).protocol = step.stored s.protocol := by
  simp only [undergo, granted, ConnectStep.protocol, Option.join_none, blame]

@[simp] theorem undergo_silent (s : Socket) : s.undergo { refusal := none } = s := by
  simp [undergo, ConnectStep.events, ConnectStep.protocol, blame]

/-- What a granted option leaves, once the copy of an option class is released. -/
theorem applyOption_released {p : Protocol} (option : SocketOption) {kernel : KernelOption} {store : Socket → Socket}
    {changed : Signal} {s : Socket} {d : Nat} (here : s.descriptor = d) (is : s.protocol = p) (answer : Option Errno)
    (asks : p.kernelOption option = some kernel)
    (stores : ∀ t : Socket, store t = { t with protocol := p.assigned option })
    (change : option.changed = some changed) :
    let r := s.applyOption Slot.idle kernel answer (p.differs option) store changed
    (r.1, if r.1 then { r.2 with protocol := r.2.protocol.released option } else r.2) =
      ((optionStep d p option answer).refusal.isNone, s.undergo (optionStep d p option answer)) := by
  subst is
  have live : s.descriptor ≠ -1 := by omega
  unfold applyOption setsockopt
  simp only [if_neg live, undergo, optionStep, asks, ConnectStep.events, ConnectStep.protocol, Protocol.announces, change,
    blame]
  cases answer with
  | some e => simp [setSystemError, setError, setErrno, emit, log, Slot.idle, here, errorSignal]
  | none =>
    cases differs : s.protocol.differs option with
    | true => simp [stores, emit, log, Slot.idle, here, Protocol.store]
    | false => simp [log, here, Protocol.store_of_not_differs differs, Protocol.released_of_not_differs differs]

theorem applyOption_step {p : Protocol} (option : SocketOption) {kernel : KernelOption} {store : Socket → Socket}
    {changed : Signal} {s : Socket} {d : Nat} (here : s.descriptor = d) (is : s.protocol = p) (answer : Option Errno)
    (asks : p.kernelOption option = some kernel)
    (stores : ∀ t : Socket, store t = { t with protocol := p.assigned option })
    (change : option.changed = some changed) (plain : ∀ q : Protocol, q.released option = q) :
    s.applyOption Slot.idle kernel answer (p.differs option) store changed =
      ((optionStep d p option answer).refusal.isNone, s.undergo (optionStep d p option answer)) := by
  rw [← applyOption_released option here is answer asks stores change]
  simp [plain]

theorem releaseCopy_step {p : Protocol} (option : SocketOption) {kernel : KernelOption} {store : Socket → Socket}
    {changed : Signal} {s : Socket} {d : Nat} (here : s.descriptor = d) (is : s.protocol = p) (answer : Option Errno)
    (asks : p.kernelOption option = some kernel)
    (stores : ∀ t : Socket, store t = { t with protocol := p.assigned option })
    (change : option.changed = some changed) {release : CanIsoTpFields → CanIsoTpFields}
    (releases : ∀ f, (Protocol.isoTp f).released option = .isoTp (release f))
    (keeps : ∀ o, (Protocol.raw o).released option = .raw o) :
    releaseCopy release (s.applyOption Slot.idle kernel answer (p.differs option) store changed) =
      ((optionStep d p option answer).refusal.isNone, s.undergo (optionStep d p option answer)) :=
  (releaseCopy_eq releases keeps _).trans (applyOption_released option here is answer asks stores change)

/-- A connect only sets options of its class. -/
theorem connectOptions_offered {env : ConnectEnv} {option : Protocol → SocketOption} (mem : option ∈ connectOptions env)
    (p : Protocol) :
    p.kernelOption (option p) ≠ none ∨
      ∃ o, p = .raw o ∧ option p = .flexibleDataRateFramesOption o.flexibleDataRateFrames := by
  simp only [connectOptions, List.mem_cons, List.not_mem_nil, or_false] at mem
  cases p with
  | raw o =>
    rcases mem with rfl | rfl | rfl | rfl | rfl
    case inr.inr.inr.inr => exact Or.inr ⟨o, rfl, rfl⟩
    all_goals exact Or.inl nofun
  | isoTp f =>
    rcases mem with rfl | rfl | rfl | rfl | rfl
    all_goals exact Or.inl nofun

theorem setRawOption_step {o : CanRawOptions} {s : Socket} {d : Nat} (here : s.descriptor = d)
    (raw : s.protocol = .raw o) {option : SocketOption} (answer : Option Errno)
    (offered : (Protocol.raw o).kernelOption option ≠ none ∨
      option = .flexibleDataRateFramesOption o.flexibleDataRateFrames) :
    s.setRawOption Slot.idle o option answer =
      ((optionStep d (.raw o) option answer).refusal.isNone, s.undergo (optionStep d (.raw o) option answer)) := by
  cases option with
  | canFilterOption new => exact applyOption_step (.canFilterOption new) here raw answer rfl (fun _ => rfl) rfl fun q => by cases q <;> rfl
  | errorFilterMaskOption new =>
    exact applyOption_step (.errorFilterMaskOption new) here raw answer rfl (fun _ => rfl) rfl fun q => by cases q <;> rfl
  | loopbackOption new => exact applyOption_step (.loopbackOption new) here raw answer rfl (fun _ => rfl) rfl fun q => by cases q <;> rfl
  | receiveOwnMessagesOption new =>
    exact applyOption_step (.receiveOwnMessagesOption new) here raw answer rfl (fun _ => rfl) rfl fun q => by cases q <;> rfl
  | flexibleDataRateFramesOption new =>
    have silent : (Protocol.raw o).announces (.flexibleDataRateFramesOption new) = [] := rfl
    have same : (Protocol.raw o).store (.flexibleDataRateFramesOption new) = .raw o := rfl
    have kept : s = { s with protocol := .raw o } := by rw [← raw]
    unfold setRawOption optionStep undergo
    by_cases enabled : new = .enabledFdFrames
    · simp [enabled, Protocol.kernelOption, ConnectStep.events, ConnectStep.protocol, blame]
    · simpa [enabled, Protocol.kernelOption, ConnectStep.events, ConnectStep.protocol, silent, raw, same, blame] using kept
  | _ =>
    rcases offered with offered | other
    · exact absurd rfl offered
    · cases other

theorem setIsoTpOption_step {f : CanIsoTpFields} {s : Socket} {d : Nat} (here : s.descriptor = d)
    (isoTp : s.protocol = .isoTp f) {option : SocketOption} (answer : Option Errno)
    (offered : (Protocol.isoTp f).kernelOption option ≠ none) :
    s.setIsoTpOption Slot.idle f option answer =
      ((optionStep d (.isoTp f) option answer).refusal.isNone, s.undergo (optionStep d (.isoTp f) option answer)) := by
  cases option with
  | isoTpOptions new =>
    exact releaseCopy_step (.isoTpOptions new) here isoTp answer rfl (fun _ => rfl) rfl (fun _ => rfl) fun _ => rfl
  | flowControlOptions new =>
    exact releaseCopy_step (.flowControlOptions new) here isoTp answer rfl (fun _ => rfl) rfl (fun _ => rfl) fun _ => rfl
  | txMinSepTimeOption new =>
    exact applyOption_step (.txMinSepTimeOption new) here isoTp answer rfl (fun _ => rfl) rfl fun q => by cases q <;> rfl
  | rxMinSepTimeOption new =>
    exact applyOption_step (.rxMinSepTimeOption new) here isoTp answer rfl (fun _ => rfl) rfl fun q => by cases q <;> rfl
  | linkLayerOptions new =>
    exact releaseCopy_step (.linkLayerOptions new) here isoTp answer rfl (fun _ => rfl) rfl (fun _ => rfl) fun _ => rfl
  | _ => exact absurd rfl offered

theorem setSocketOption_step {env : ConnectEnv} {option : Protocol → SocketOption} (mem : option ∈ connectOptions env)
    {s : Socket} {d : Nat} (here : s.descriptor = d) (answer : Option Errno) :
    s.setSocketOption Slot.idle (option s.protocol) answer =
      ((optionStep d s.protocol (option s.protocol) answer).refusal.isNone,
        s.undergo (optionStep d s.protocol (option s.protocol) answer)) := by
  have offered := connectOptions_offered mem s.protocol
  unfold setSocketOption
  split
  next o raw =>
    rw [raw] at offered ⊢
    refine setRawOption_step here raw answer (offered.imp_right ?_)
    rintro ⟨_, same, fdFrames⟩
    cases same
    exact fdFrames
  next f isoTp =>
    rw [isoTp] at offered ⊢
    refine setIsoTpOption_step here isoTp answer (offered.resolve_right ?_)
    rintro ⟨_, other, _⟩
    cases other

/-- Setting the options of a connect is carrying out their steps. -/
theorem replayOptions_steps {env : ConnectEnv} {d : Nat} (answers : Nat → Option Errno)
    {options : List (Protocol → SocketOption)} (mem : ∀ option ∈ options, option ∈ connectOptions env) (i : Nat) {s : Socket} (here : s.descriptor = d) :
    s.replayOptions Slot.idle answers options i =
      carryOut ConnectStep.refusal undergo (optionSteps d answers options i s.protocol) s := by
  induction options generalizing i s with
  | nil => rfl
  | cons option options ih =>
    have first := setSocketOption_step (mem option (by simp)) here (answers i)
    have rest : ∀ later ∈ options, later ∈ connectOptions env := fun later inside => mem later (by simp [inside])
    generalize hstep : optionStep d s.protocol (option s.protocol) (answers i) = step at first
    rw [replayOptions, first, optionSteps, carryOut, hstep]
    cases refusal : step.refusal with
    | some e => rfl
    | none =>
      have protocol : (s.undergo step).protocol = s.protocol.store (option s.protocol) := by
        rw [undergo_granted refusal, ← hstep]
        rfl
      rw [← protocol]
      exact ih rest (i + 1) ((undergo_descriptor step s).trans here)

/-- The private `connectToInterface` carries out the steps of a connect. -/
theorem openDescriptor_steps (interfaceName : String) (env : ConnectEnv) (s : Socket) :
    s.openDescriptor Slot.idle interfaceName env =
      carryOut ConnectStep.refusal undergo (connectSteps interfaceName env s.protocol)
        { s with descriptor := env.descriptor } := by
  unfold openDescriptor connectSteps ConnectEnv.descriptor
  cases env.socket with
  | error e => rfl
  | ok d =>
    have replay := @replayOptions_steps env d env.setsockopt (connectOptions env) (fun _ inside => inside) 0 (s.opened d) rfl
    have frame := (replayOptions_frame env.setsockopt (connectOptions env) 0 (s.opened d)).2
    have protocol : (s.opened d).protocol = s.protocol := rfl
    have named : carryOut ConnectStep.refusal undergo
        (if interfaceName = "" then [] else [{ refusal := env.ifindex.map some }]) (s.opened d) =
          ((if interfaceName = "" then none else env.ifindex).isNone, (s.opened d).undergo {
            refusal := (if interfaceName = "" then none else env.ifindex).map some }) := by
      split
      next => simp [carryOut]
      next => cases env.ifindex <;> rfl
    have start : ({ s with descriptor := (d : Int) } : Socket).log (.opened d) = s.opened d := rfl
    dsimp only
    rw [carryOut_append, carryOut_append, carryOut_append]
    cases env.fcntl with
    | some e => rfl
    | none =>
      have begun : carryOut ConnectStep.refusal undergo [{ calls := [.opened d], refusal := none }, { refusal := none }]
          { s with descriptor := (d : Int) } = (true, s.opened d) := by
        simp only [carryOut, undergo_silent]
        rfl
      rw [Option.map_none, begun]
      dsimp only
      rw [named]
      rw [start]
      generalize (if interfaceName = "" then none else env.ifindex) = ifindex
      cases ifindex with
      | some e => rfl
      | none =>
        rw [Option.map_none, undergo_silent, Option.isNone_none]
        dsimp only
        rw [← protocol, ← replay]
        generalize (s.opened d).replayOptions Slot.idle env.setsockopt (connectOptions env) 0 = r at frame
        obtain ⟨granted, t⟩ := r
        cases granted with
        | false => rfl
        | true =>
          have here : t.descriptor = d := frame
          dsimp only
          rw [here]
          cases env.bind with
          | some e =>
            simp [carryOut, undergo, ConnectStep.events, ConnectStep.protocol, setSystemError, setError, setErrno, emit,
              log, Slot.idle, errorSignal, protocol, blame]
          | none => simp [carryOut, undergo, ConnectStep.events, ConnectStep.protocol, log, protocol, blame]

theorem carryOut_undergo (steps : List ConnectStep) (s : Socket) :
    carryOut ConnectStep.refusal undergo steps s =
      ((firstRefusal ConnectStep.refusal steps).isNone,
        ({ s with
          trace := s.trace ++ (tried ConnectStep.refusal steps).flatMap ConnectStep.events
          protocol := (tried ConnectStep.refusal steps).foldl (fun p step => step.protocol p) s.protocol
          } : Socket).blame (firstRefusal ConnectStep.refusal steps).join) := by
  induction steps generalizing s with
  | nil => simp [carryOut, tried, firstRefusal, blame]
  | cons step steps ih =>
    rw [carryOut, tried, firstRefusal, List.findSome?_cons]
    cases refusal : step.refusal with
    | some cause => simp [undergo, refusal]
    | none =>
      have here : s.undergo step =
          { s with trace := s.trace ++ step.events, protocol := step.protocol s.protocol } := by
        simp [undergo, refusal, blame]
      dsimp only
      rw [ih, here]
      simp [firstRefusal]

/-- Closing a connect that is given up. -/
theorem close_connecting {s : Socket} (connecting : s.state = .connectingState) {env : ConnectEnv}
    (here : s.descriptor = env.descriptor) :
    s.close Slot.idle env.close = ({ s with
      openMode := .notOpen
      buffer := []
      errorString := .text ""
      state := .unconnectedState
      interfaceName := ""
      descriptor := -1
      readNotifier := none
      writeNotifier := none
      pendingBytesWritten := 0
      writeSequenceStarted := false
      trace := s.trace ++ env.closingEvents } : Socket).blame env.closingFailure := by
  unfold close closeDescriptor
  by_cases positive : 0 < s.descriptor
  · cases failed : env.close with
    | none =>
      simp [connecting, setSocketState, emit, log, Slot.idle, positive, ← here, ConnectEnv.closingEvents,
        ConnectEnv.closingFailure, failed, blame]
    | some e =>
      simp [connecting, setSocketState, setSystemError, setError, setErrno, emit, log, Slot.idle, positive, ← here,
        ConnectEnv.closingEvents, ConnectEnv.closingFailure, failed, blame, errorSignal]
  · simp [connecting, setSocketState, emit, log, Slot.idle, positive, ← here, ConnectEnv.closingEvents,
      ConnectEnv.closingFailure, blame]

theorem connectToInterface_protocol_replayed {interfaceName : String} {mode : OpenMode} {env : ConnectEnv} {s : Socket}
    (connected : (s.connectToInterface Slot.idle interfaceName mode env).1 = true) :
    (s.connectToInterface Slot.idle interfaceName mode env).2.protocol = s.protocol.replayed := by
  have connects := connectToInterface_connects interfaceName mode env s
  generalize s.connectToInterface Slot.idle interfaceName mode env = r at connects connected
  cases connects with
  | connected d w u t _ _ _ wview replay view _ =>
    exact (congrArg OptionView.protocol view).trans (replayed_of_granted wview replay).2.1
  | _ => cases connected

/-- The object on which the private `connectToInterface` is called. -/
def connecting (interfaceName : String) (mode : OpenMode) (s : Socket) : Socket := { s with
  interfaceName := interfaceName
  state := .connectingState
  buffer := []
  writeBuffer := []
  openMode := mode
  trace := s.trace ++ [.signal (.stateChanged .connectingState)] }

theorem connectToInterface_eq {interfaceName : String} {mode : OpenMode} {env : ConnectEnv} {s : Socket}
    (unconnected : s.state = .unconnectedState) (supported : mode.supported = true) :
    s.connectToInterface Slot.idle interfaceName mode env =
      match (s.connecting interfaceName mode).openDescriptor Slot.idle interfaceName env with
      | (false, t) => (false, t.close Slot.idle env.close)
      | (true, t) => (true, (if mode.readOnly then t.setReadNotificationEnabled true else t).setSocketState Slot.idle
          .connectedState) := by
  unfold connectToInterface
  rw [if_neg (not_not.mpr unconnected), if_neg (by simp [supported])]
  rfl

theorem setSocketState_connected {t : Socket} (connecting : t.state = .connectingState) (readOnly : Bool) :
    ∃ made : Option Notifier × List (Nat × Int),
      (if readOnly then t.setReadNotificationEnabled true else t).setSocketState Slot.idle .connectedState =
        { t with
          readNotifier := made.1
          watched := made.2
          state := .connectedState
          trace := t.trace ++ [.signal (.stateChanged .connectedState)] } ∧
      (readOnly = true → isReadNotificationEnabled { t with readNotifier := made.1, watched := made.2 } = true) := by
  have entered : ∀ u : Socket, u.state = .connectingState → u.setSocketState Slot.idle .connectedState =
      { u with state := .connectedState, trace := u.trace ++ [.signal (.stateChanged .connectedState)] } := by
    intro u at_state
    simp [setSocketState, at_state, emit, log, Slot.idle]
  cases readOnly with
  | false => exact ⟨(t.readNotifier, t.watched), entered t connecting, fun reads => absurd reads Bool.false_ne_true⟩
  | true =>
    obtain ⟨made, eq⟩ := t.setRead_eq true
    have enabled := t.setRead_isRead true
    rw [eq] at enabled
    refine ⟨made, ?_, fun _ => enabled⟩
    rw [if_pos rfl, eq]
    exact entered _ connecting

/-- The state in which a connect has tried these steps. -/
def opening (tried : List ConnectStep) (interfaceName : String) (mode : OpenMode) (env : ConnectEnv) (s : Socket) :
    Socket := { s.connecting interfaceName mode with
  descriptor := env.descriptor
  trace := (s.connecting interfaceName mode).trace ++ tried.flatMap ConnectStep.events
  protocol := tried.foldl (fun p step => step.protocol p) s.protocol }

theorem openDescriptor_opening (interfaceName : String) (mode : OpenMode) (env : ConnectEnv) (s : Socket) :
    (s.connecting interfaceName mode).openDescriptor Slot.idle interfaceName env =
      ((firstRefusal ConnectStep.refusal (connectSteps interfaceName env s.protocol)).isNone,
        (s.opening (tried ConnectStep.refusal (connectSteps interfaceName env s.protocol)) interfaceName mode env).blame
          (firstRefusal ConnectStep.refusal (connectSteps interfaceName env s.protocol)).join) :=
  (openDescriptor_steps interfaceName env _).trans (carryOut_undergo _ _)

theorem connectToInterface_through {interfaceName : String} {mode : OpenMode} {env : ConnectEnv} {s : Socket}
    (unconnected : s.state = .unconnectedState) (supported : mode.supported = true)
    (granted : firstRefusal ConnectStep.refusal (connectSteps interfaceName env s.protocol) = none) :
    (s.connectToInterface Slot.idle interfaceName mode env).1 = true ∧
      ConnectedBy (connectSteps interfaceName env s.protocol) interfaceName mode env s
        (s.connectToInterface Slot.idle interfaceName mode env).2 := by
  obtain ⟨d, socket⟩ : ∃ d, env.socket = .ok d := by
    cases socket : env.socket with
    | ok d => exact ⟨d, rfl⟩
    | error e => simp [connectSteps, socket, firstRefusal] at granted
  have descriptor : env.descriptor = d := by simp [ConnectEnv.descriptor, socket]
  have replayed := @connectToInterface_protocol_replayed interfaceName mode env s
  rw [connectToInterface_eq unconnected supported, openDescriptor_opening, granted, tried_all _ granted] at replayed ⊢
  rw [Option.isNone_none, Option.join_none, blame_none] at replayed ⊢
  dsimp only at replayed ⊢
  generalize connectSteps interfaceName env s.protocol = steps at replayed ⊢
  obtain ⟨made, eq, reading⟩ := setSocketState_connected
    (t := s.opening steps interfaceName mode env) rfl mode.readOnly
  rw [eq] at replayed ⊢
  refine ⟨rfl, rfl, ?_, ⟨rfl, rfl, rfl, rfl⟩, ⟨rfl, rfl⟩, replayed rfl, reading, ?_⟩
  · simp [opening, descriptor, socket]
  · simp [opening, connecting]

theorem connectToInterface_givenUp {interfaceName : String} {mode : OpenMode} {env : ConnectEnv} {s : Socket}
    (unconnected : s.state = .unconnectedState) (supported : mode.supported = true) {cause : Option Errno}
    (refused : firstRefusal ConnectStep.refusal (connectSteps interfaceName env s.protocol) = some cause) :
    (s.connectToInterface Slot.idle interfaceName mode env).1 = false ∧
      GivenUpAfter (tried ConnectStep.refusal (connectSteps interfaceName env s.protocol)) cause env s
        (s.connectToInterface Slot.idle interfaceName mode env).2 := by
  rw [connectToInterface_eq unconnected supported, openDescriptor_opening, refused]
  dsimp only [Option.isNone_some, Option.join_some]
  generalize tried ConnectStep.refusal (connectSteps interfaceName env s.protocol) = steps
  rw [close_connecting rfl rfl]
  refine ⟨rfl, rfl, rfl, ⟨rfl, rfl, rfl, rfl⟩, ⟨rfl, rfl⟩, ?_, rfl, rfl, ?_⟩
  · show (env.closingFailure.map _).getD ((cause.map _).getD s.error) = _
    cases env.closingFailure with
    | none => rfl
    | some e => rfl
  · simp [blame, opening, connecting]

end Socket

/-- A connect makes its calls of the kernel in order up to the first that is refused, and comes through exactly when
none is. Else the object is closed again and told what failed last. -/
theorem connect_dialogue (interfaceName : String) {mode : OpenMode} (env : ConnectEnv) {s : Socket}
    (unconnected : s.state = .unconnectedState) (supported : mode.supported = true) :
    let steps := connectSteps interfaceName env s.protocol
    let r := s.connectToInterface Slot.idle interfaceName mode env
    (r.1 = true ↔ firstRefusal ConnectStep.refusal steps = none) ∧
      (r.1 = true → ConnectedBy steps interfaceName mode env s r.2) ∧
      ∀ cause, firstRefusal ConnectStep.refusal steps = some cause →
        GivenUpAfter (tried ConnectStep.refusal steps) cause env s r.2 := by
  intro steps r
  cases refused : firstRefusal ConnectStep.refusal steps with
  | none =>
    obtain ⟨through, connected⟩ := Socket.connectToInterface_through unconnected supported refused
    exact ⟨iff_of_true through rfl, fun _ => connected, nofun⟩
  | some cause =>
    obtain ⟨failed, givenUp⟩ := Socket.connectToInterface_givenUp unconnected supported refused
    have refuses : r.1 ≠ true := Bool.eq_false_iff.mp failed
    refine ⟨iff_of_false refuses nofun, fun connected => absurd connected refuses, fun other same => ?_⟩
    obtain rfl := Option.some.inj same
    exact givenUp

theorem connect_dialogue_loopbackRefused :
    let s := Socket.create (.raw {})
    let env : ConnectEnv := {
      socket := .ok 3
      setsockopt := fun i => if i = 2 then some .EINVAL else none
      close := some (.other 5) }
    let steps := tried ConnectStep.refusal (connectSteps "can0" env s.protocol)
    steps.flatMap ConnectStep.events = [.opened 3, .setsockopt 3 (.canRawFilter [{}]) none,
        .setsockopt 3 (.canRawErrFilter 0) none, .setsockopt 3 (.canRawLoopback .enabledLoopback) (some .EINVAL),
        .signal (.error .unsupportedSocketOperationError)] ∧
      GivenUpAfter steps (some .EINVAL) env s (s.connectToInterface Slot.idle "can0" .readWrite env).2 :=
  ⟨rfl, (connect_dialogue "can0" _ rfl (by decide)).2.2 _ rfl⟩

end CanSocket
