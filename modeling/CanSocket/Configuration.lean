import CanSocket.OptionsInForce

namespace CanSocket

inductive OptionName
  | canFilterOption
  | errorFilterMaskOption
  | loopbackOption
  | receiveOwnMessagesOption
  | flexibleDataRateFramesOption
  | txIdOption
  | rxIdOption
  | isoTpOptions
  | flowControlOptions
  | txMinSepTimeOption
  | rxMinSepTimeOption
  | linkLayerOptions
deriving DecidableEq, Repr

def SocketOption.name : SocketOption → OptionName
  | .canFilterOption _ => .canFilterOption
  | .errorFilterMaskOption _ => .errorFilterMaskOption
  | .loopbackOption _ => .loopbackOption
  | .receiveOwnMessagesOption _ => .receiveOwnMessagesOption
  | .flexibleDataRateFramesOption _ => .flexibleDataRateFramesOption
  | .txIdOption _ => .txIdOption
  | .rxIdOption _ => .rxIdOption
  | .isoTpOptions _ => .isoTpOptions
  | .flowControlOptions _ => .flowControlOptions
  | .txMinSepTimeOption _ => .txMinSepTimeOption
  | .rxMinSepTimeOption _ => .rxMinSepTimeOption
  | .linkLayerOptions _ => .linkLayerOptions

/-- The option with the value it was set to last. -/
def LastSet (options : List SocketOption) (option : SocketOption) : Prop :=
  (options.filter fun o => o.name = option.name).getLast? = some option

/-- Every option has the value it was set to last. -/
def Configured (options : List SocketOption) (k : KernelOptions) : Prop :=
  ∀ option, LastSet options option → option.put k = k

/-- A socket that has just been connected reports the options as they were set, and its kernel
socket had them before the bind. -/
def TakesEffect (options : List SocketOption) (s : Socket) : Prop :=
  ∃ before ids, s.trace = before ++ [.bind s.descriptor ids none, .signal (.stateChanged .connectedState)] ∧
    Configured options s.protocol.reported ∧ Configured options (kernelOptions s.descriptor before)

/-- What the fields a connect leaves have as it was set, the kernel has too: the two differ in the option objects, and
those have nothing to report. -/
theorem configured_handed {options : List SocketOption} {p : Protocol} (env : ConnectEnv)
    (configured : Configured options p.replayed.reported) : Configured options (p.handed env) := by
  cases p with
  | raw o => exact configured
  | isoTp f =>
    intro option last
    have told := configured option last
    clear configured
    cases option <;> simp_all [SocketOption.put, Protocol.replayed, Protocol.reported, Protocol.handed]

theorem reported_replayed_nameless {p : Protocol} {option : SocketOption} (nameless : p.kernelOption option = none) :
    (p.store option).replayed.reported = p.replayed.reported := by
  cases p <;> cases option <;> first | rfl | cases nameless

/-- Without a descriptor no setting that has a kernel name is kept. -/
theorem setSocketOption_unconnected {s : Socket} (none : s.descriptor = -1) (option : SocketOption)
    (answer : Option Errno) :
    (s.step (.setSocketOption option answer)).descriptor = -1 ∧
      (s.step (.setSocketOption option answer)).protocol.replayed.reported = s.protocol.replayed.reported := by
  have sets := Socket.setSocketOption_sets option answer s
  unfold Socket.step Socket.exec
  dsimp only
  generalize s.setSocketOption Slot.idle option answer = r at sets
  refine ⟨sets.frame.2.1.trans none, ?_⟩
  cases sets with
  | refused => rfl
  | rejected _ _ t _ _ view => exact congrArg (fun v => v.protocol.replayed.reported) view
  | stored t asks _ view =>
    exact (congrArg (fun v => v.protocol.replayed.reported) view).trans (reported_replayed_nameless asks)
  | granted _ _ _ descriptor => exact absurd none descriptor

theorem settings_unconnected {settings : List (SocketOption × Option Errno)} {s : Socket}
    (none : s.descriptor = -1) :
    (CallRun.run Socket.step (settings.map fun x => .setSocketOption x.1 x.2) s).protocol.replayed.reported =
      s.protocol.replayed.reported := by
  induction settings generalizing s with
  | nil => rfl
  | cons x settings ih =>
    obtain ⟨still, same⟩ := setSocketOption_unconnected none x.1 x.2
    exact (ih still).trans same

/-- What a connect that returns true leaves: the options it replayed, told and in force. -/
theorem connectToInterface_replayed {interfaceName : String} {mode : OpenMode} {env : ConnectEnv} {s : Socket}
    (ok : (s.connectToInterface Slot.idle interfaceName mode env).1 = true) :
    ∃ before ids, (s.connectToInterface Slot.idle interfaceName mode env).2.trace = before ++
        [.bind (s.connectToInterface Slot.idle interfaceName mode env).2.descriptor ids none,
          .signal (.stateChanged .connectedState)] ∧
      (s.connectToInterface Slot.idle interfaceName mode env).2.protocol = s.protocol.replayed ∧
      kernelOptions (s.connectToInterface Slot.idle interfaceName mode env).2.descriptor before =
        s.protocol.handed env := by
  have connects := Socket.connectToInterface_connects interfaceName mode env s
  generalize s.connectToInterface Slot.idle interfaceName mode env = r at connects ok
  cases connects with
  | connected d w u t _ _ _ wview replay view trace =>
    obtain ⟨descriptor, protocol, kernel⟩ := Socket.replayed_of_granted wview replay
    have here : t.descriptor = d := (congrArg OptionView.descriptor view).trans descriptor
    dsimp only
    rw [here]
    exact ⟨u.trace, _, trace, (congrArg OptionView.protocol view).trans protocol, kernel⟩
  | _ => cases ok

/-- What is set on an unconnected socket takes effect at the next connect if and only if, for every option, the last value
set is the one the connect would have left anyway: of a raw socket the value told before, of an ISO-TP socket 0 for the
two separation times, and none for an option object, whose cell is released. -/
theorem configuration_takes_effect_iff (protocol : Protocol) (calls : List Call)
    (settings : List (SocketOption × Option Errno)) {interfaceName : String} {mode : OpenMode} {env : ConnectEnv} :
    let s := CallRun.run Socket.step calls (.create protocol)
    let t := CallRun.run Socket.step (settings.map fun x => .setSocketOption x.1 x.2) s
    s.state = .unconnectedState → (t.connectToInterface Slot.idle interfaceName mode env).1 = true →
    (TakesEffect (settings.map Prod.fst) (t.connectToInterface Slot.idle interfaceName mode env).2 ↔
      Configured (settings.map Prod.fst) s.protocol.replayed.reported) := by
  intro s t unconnected ok
  have none : s.descriptor = -1 := by
    have any : CallRun.Guarded Socket.step (fun _ _ => True) calls (.create protocol) :=
      CallRun.guarded_of_all (fun _ _ => trivial) _
    have linked : s.Linked :=
      CallRun.run_invariant (fun c _ _ h => Socket.step_linked c h) any (Or.inl ⟨rfl, rfl⟩)
    rcases linked with ⟨_, none⟩ | ⟨connected, _⟩
    · exact none
    · exact absurd (unconnected.symm.trans connected) (by decide)
  have same : t.protocol.replayed.reported = s.protocol.replayed.reported := settings_unconnected none
  obtain ⟨before, ids, trace, told, kernel⟩ := connectToInterface_replayed ok
  rw [← same]
  constructor
  · rintro ⟨_, _, _, configured, _⟩
    rwa [told] at configured
  · intro configured
    refine ⟨before, ids, trace, ?_, ?_⟩
    · rwa [told]
    · rw [kernel]
      exact configured_handed env configured

theorem configuration_takes_effect_iff_default :
    TakesEffect [.loopbackOption .enabledLoopback] (((Socket.create (.raw {})).step
        (.setSocketOption (.loopbackOption .enabledLoopback) none)).connectToInterface Slot.idle "can0" .readWrite
          (.granting 3)).2 ↔
      Configured [.loopbackOption .enabledLoopback] (Protocol.raw {}).replayed.reported :=
  configuration_takes_effect_iff (.raw {}) [] [(.loopbackOption .enabledLoopback, none)] rfl (by decide)

/-- Options set before a connect that succeeds are neither told nor in force after it. -/
theorem configuration_lost :
    let s := (Socket.create (.isoTp (.initial 50000))).step
      (.setSocketOption (.isoTpOptions ⟨{ flags := 2, frameTxTime := 0, extAddress := 9 }, false⟩) none)
    let t := (Socket.create (.raw {})).step (.setSocketOption (.canFilterOption [⟨5, 7⟩]) none)
    (s.connectToInterface Slot.idle "can0" .readWrite (.granting 3)).1 = true ∧
      ¬TakesEffect [.isoTpOptions ⟨{ flags := 2, frameTxTime := 0, extAddress := 9 }, false⟩]
        (s.connectToInterface Slot.idle "can0" .readWrite (.granting 3)).2 ∧
      (t.connectToInterface Slot.idle "can0" .readWrite (.granting 3)).1 = true ∧
      ¬TakesEffect [.canFilterOption [⟨5, 7⟩]]
        (t.connectToInterface Slot.idle "can0" .readWrite (.granting 3)).2 := by
  intro s t
  refine ⟨by decide, ?_, by decide, ?_⟩
  · rintro ⟨_, _, _, told, _⟩
    exact absurd (told (.isoTpOptions ⟨{ flags := 2, frameTxTime := 0, extAddress := 9 }, false⟩) rfl) (by decide)
  · rintro ⟨_, _, _, told, _⟩
    exact absurd (told (.canFilterOption [⟨5, 7⟩]) rfl) (by decide)

end CanSocket
