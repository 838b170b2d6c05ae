import CanSocket.Configuration

namespace CanSocket

/-- What an ISO-TP socket that has done these calls would let its user rely on: the values told are in force, an option
is set under its own name and no other, and what was accepted is kept. -/
structure IsoTpOptionsMirrored (start : Socket) (calls : List Call) (s : Socket) : Prop where
  inForce : s.state = .connectedState → kernelOptions s.descriptor s.trace = s.protocol.reported
  own : ∀ option answer d, kernelOptions d (s.setSocketOption Slot.idle option answer).2.trace =
    if (s.setSocketOption Slot.idle option answer).1 = true ∧ d = s.descriptor then
      option.put (kernelOptions d s.trace)
    else kernelOptions d s.trace
  kept : s.state = .connectedState → Configured (acceptedOptions calls start) s.protocol.reported

/-- The three option objects point to released cells. -/
def Protocol.Dangling (p : Protocol) : Prop :=
  p.reported.canIsotpOpts = none ∧ p.reported.canIsotpRecvFc = none ∧ p.reported.canIsotpLlOpts = none

def KernelOptions.Stored (k : KernelOptions) : Prop :=
  k.canIsotpOpts.isSome ∧ k.canIsotpRecvFc.isSome ∧ k.canIsotpLlOpts.isSome

def KernelOptions.times (k : KernelOptions) : UInt32 × UInt32 := (k.canIsotpTxStmin, k.canIsotpRxStmin)

/-- The kernel knows both separation times by one name: a call that sets the second leaves both as told if they are 0. -/
def Call.KeepsTimes (c : Call) (s : Socket) : Prop :=
  match c with
  | .setSocketOption (.rxMinSepTimeOption nsecs) none =>
    s.state = .connectedState → nsecs = 0 ∧ s.protocol.reported.canIsotpTxStmin = 0
  | _ => True

theorem dangling_store {p : Protocol} (option : SocketOption) (h : p.Dangling) : (p.store option).Dangling := by
  obtain ⟨options, flowControl, linkLayer⟩ := h
  cases p <;> cases option <;> exact ⟨by first | rfl | exact options, by first | rfl | exact flowControl,
    by first | rfl | exact linkLayer⟩

theorem stored_set {k : KernelOptions} (option : KernelOption) (h : k.Stored) : (k.set option).Stored := by
  obtain ⟨options, flowControl, linkLayer⟩ := h
  cases option <;> exact ⟨by first | rfl | exact options, by first | rfl | exact flowControl,
    by first | rfl | exact linkLayer⟩

/-- What holds of an ISO-TP socket between the calls of such a run. -/
structure IsoTpSession (s : Socket) : Prop where
  link : s.Linked
  isoTp : ∃ f, s.protocol = .isoTp f
  dangling : s.state = .connectedState → s.protocol.Dangling
  stored : s.state = .connectedState → (kernelOptions s.descriptor s.trace).Stored

namespace Socket

theorem close_unconnected (s : Socket) (answer : Option Errno) :
    (s.step (.close answer)).state = .unconnectedState := by
  by_cases unconnected : s.state = .unconnectedState
  · simp [step, exec, close, unconnected]
  · exact congrArg OptionView.state (optionView_close unconnected answer)

/-- A connected socket after a connect has just come through one or is as it was. -/
theorem connect_connected {interfaceName : String} {mode : OpenMode} {env : ConnectEnv} {s : Socket}
    (connected : (s.step (.connectToInterface interfaceName mode env)).state = .connectedState) :
    ((s.step (.connectToInterface interfaceName mode env)).protocol = s.protocol.replayed ∧
      kernelOptions (s.step (.connectToInterface interfaceName mode env)).descriptor
        (s.step (.connectToInterface interfaceName mode env)).trace = s.protocol.handed env) ∨
      (s.step (.connectToInterface interfaceName mode env)).optionView = s.optionView := by
  have connects := connectToInterface_connects interfaceName mode env s
  unfold step exec at connected ⊢
  dsimp only at connected ⊢
  generalize s.connectToInterface Slot.idle interfaceName mode env = r at connects connected
  have offline : ∀ t : Socket, t.state = .unconnectedState → t.state = .connectedState → False := by
    intro t down up
    exact absurd (down.symm.trans up) (by decide)
  cases connects with
  | refused t view => exact Or.inr view
  | unopened events t unconnected _ view =>
    exact (offline t ((congrArg OptionView.state view).trans unconnected) connected).elim
  | unset d w u t _ _ _ _ _ view => exact (offline t (congrArg OptionView.state view) connected).elim
  | unbound d w u t e _ _ _ _ _ view => exact (offline t (congrArg OptionView.state view) connected).elim
  | connected d w u t _ _ _ wview replay view trace =>
    obtain ⟨descriptor, protocol, kernel⟩ := replayed_of_granted wview replay
    have here : t.descriptor = d := (congrArg OptionView.descriptor view).trans descriptor
    refine Or.inl ⟨(congrArg OptionView.protocol view).trans protocol, ?_⟩
    dsimp only
    rw [here, trace, kernelOptions_append, kernel]
    rfl

theorem step_isoTpSession (c : Call) (s : Socket) (on : c.OnOptions) (h : IsoTpSession s) :
    IsoTpSession (s.step c) := by
  have held : (s.step c).state = .connectedState → (s.step c).protocol.Dangling ∧
      (kernelOptions (s.step c).descriptor (s.step c).trace).Stored := by
    intro connected
    cases c with
    | connectToInterface interfaceName mode env =>
      rcases connect_connected connected with ⟨protocol, kernel⟩ | same
      · obtain ⟨f, isoTp⟩ := h.isoTp
        rw [protocol, kernel, isoTp]
        exact ⟨⟨rfl, rfl, rfl⟩, rfl, rfl, rfl⟩
      · have before : s.state = .connectedState := (congrArg OptionView.state same).symm.trans connected
        have kernel := kernelOptions_of_optionView s.descriptor (congrArg OptionView.trace same)
        have descriptor := congrArg OptionView.descriptor same
        have protocol := congrArg OptionView.protocol same
        dsimp only [optionView] at descriptor protocol
        rw [descriptor, protocol, kernel]
        exact ⟨h.dangling before, h.stored before⟩
    | close answer => exact absurd ((close_unconnected s answer).symm.trans connected) (by decide)
    | setSocketOption option answer =>
      have sets := setSocketOption_sets option answer s
      unfold step exec at connected ⊢
      dsimp only at connected ⊢
      rcases eq : s.setSocketOption Slot.idle option answer with ⟨granted, t⟩
      rw [eq] at sets connected
      obtain ⟨state, descriptor, _⟩ := sets.frame
      have before : s.state = .connectedState := state.symm.trans connected
      cases granted with
      | false =>
        obtain ⟨protocol, kernel, _⟩ := sets.rejects
        rw [protocol, descriptor, kernel]
        exact ⟨h.dangling before, h.stored before⟩
      | true =>
        obtain ⟨protocol, kernel, _⟩ := sets.grants
        rw [protocol, descriptor, kernel, if_pos rfl]
        refine ⟨dangling_store option (h.dangling before), ?_⟩
        cases s.protocol.kernelOption option with
        | none => exact h.stored before
        | some asked => exact stored_set asked (h.stored before)
    | _ => exact on.elim
  exact ⟨step_linked c h.link, step_keeps store_isoTp on h.isoTp, fun up => (held up).1, fun up => (held up).2⟩

/-- Without a descriptor no option reaches a kernel socket. -/
theorem setSocketOption_own {s : Socket} (none : s.descriptor = -1) (option : SocketOption) (answer : Option Errno)
    (d : Int) : kernelOptions d (s.setSocketOption Slot.idle option answer).2.trace =
      if (s.setSocketOption Slot.idle option answer).1 = true ∧ d = s.descriptor then
        option.put (kernelOptions d s.trace)
      else kernelOptions d s.trace := by
  have sets := setSocketOption_sets option answer s
  rcases eq : s.setSocketOption Slot.idle option answer with ⟨granted, t⟩
  rw [eq] at sets
  cases granted with
  | false => simpa using sets.rejects.2.1 d
  | true =>
    have known := sets.grants.2.1 d
    cases sets with
    | stored _ asks nameless _ => simpa [asks, nameless] using known
    | granted _ _ _ descriptor => exact absurd none descriptor

/-- A granted time goes to the kernel under its own name or is 0 like the other. -/
theorem times_granted {option : SocketOption} {s t : Socket} (sets : SetsOption option none s (true, t))
    (isoTp : ∃ f, s.protocol = .isoTp f) (connected : s.state = .connectedState)
    (keeps : (Call.setSocketOption option none).KeepsTimes s) {k : KernelOptions}
    (same : k.times = s.protocol.reported.times) (rx : s.protocol.reported.canIsotpRxStmin = 0) :
    (((s.protocol.kernelOption option).map k.set).getD k).times = t.protocol.reported.times ∧
      t.protocol.reported.canIsotpRxStmin = 0 := by
  obtain ⟨f, isoTp⟩ := isoTp
  unfold Call.KeepsTimes at keeps
  rw [sets.grants.1]
  rw [isoTp] at same rx keeps ⊢
  cases option with
  | rxMinSepTimeOption nsecs =>
    obtain ⟨rfl, tx⟩ := keeps connected
    have kernel : k.canIsotpRxStmin = 0 := (congrArg Prod.snd same).trans rx
    exact ⟨Prod.ext tx.symm kernel, rfl⟩
  | txMinSepTimeOption nsecs =>
    have kernel : k.canIsotpRxStmin = f.rxMinSepTime := congrArg Prod.snd same
    exact ⟨Prod.ext rfl kernel, rx⟩
  | _ => exact ⟨same, rx⟩

/-- The times of a connected socket are in force, and the receive time is 0. -/
def TimesMirrored (s : Socket) : Prop :=
  s.state = .connectedState →
    (kernelOptions s.descriptor s.trace).times = s.protocol.reported.times ∧ s.protocol.reported.canIsotpRxStmin = 0

theorem step_times (c : Call) (s : Socket) (safe : c.OnOptions ∧ c.KeepsTimes s)
    (h : IsoTpSession s ∧ s.TimesMirrored) : IsoTpSession (s.step c) ∧ (s.step c).TimesMirrored := by
  refine ⟨step_isoTpSession c s safe.1 h.1, fun connected => ?_⟩
  obtain ⟨on, keeps⟩ := safe
  obtain ⟨session, times⟩ := h
  cases c with
  | connectToInterface interfaceName mode env =>
    rcases connect_connected connected with ⟨protocol, kernel⟩ | same
    · obtain ⟨f, isoTp⟩ := session.isoTp
      rw [protocol, kernel, isoTp]
      exact ⟨rfl, rfl⟩
    · have before : s.state = .connectedState := (congrArg OptionView.state same).symm.trans connected
      have kernel := kernelOptions_of_optionView s.descriptor (congrArg OptionView.trace same)
      have descriptor := congrArg OptionView.descriptor same
      have protocol := congrArg OptionView.protocol same
      dsimp only [optionView] at descriptor protocol
      rw [descriptor, protocol, kernel]
      exact times before
  | close answer => exact absurd ((close_unconnected s answer).symm.trans connected) (by decide)
  | setSocketOption option answer =>
    have sets := setSocketOption_sets option answer s
    unfold step exec at connected ⊢
    dsimp only at connected ⊢
    rcases eq : s.setSocketOption Slot.idle option answer with ⟨granted, t⟩
    rw [eq] at sets connected
    obtain ⟨state, descriptor, _⟩ := sets.frame
    have before : s.state = .connectedState := state.symm.trans connected
    obtain ⟨same, rx⟩ := times before
    cases granted with
    | false =>
      obtain ⟨protocol, kernel, _⟩ := sets.rejects
      rw [protocol, descriptor, kernel]
      exact ⟨same, rx⟩
    | true =>
      have known := sets.grants.2.1 s.descriptor
      rw [if_pos rfl] at known
      rw [descriptor, known]
      cases answer with
      | none => exact times_granted sets session.isoTp before keeps same rx
      | some e =>
        cases sets with
        | granted _ _ _ _ answered => cases answered
        | stored _ asks nameless view =>
          have stored : t.protocol.reported = s.protocol.reported :=
            (congrArg (fun v => v.protocol.reported) view).trans (Protocol.reported_store_nameless asks)
          rw [asks, stored]
          exact ⟨same, rx⟩
  | _ => exact on.elim

end Socket

theorem create_isoTpSession (f : CanIsoTpFields) : IsoTpSession (Socket.create (.isoTp f)) :=
  ⟨Or.inl ⟨rfl, rfl⟩, ⟨f, rfl⟩, nofun, nofun⟩

/-- After every run of connects, closes and option settings an ISO-TP socket keeps what its options promise exactly
where it is not connected. While it is, each of its option objects points to a released cell though the kernel
holds a value for it; the two separation times are as told where each receive time set was 0 beside a transmit time 0. -/
theorem isoTp_options_mirrored (defaultFrameTxTime : UInt32) {calls : List Call} (on : ∀ c ∈ calls, c.OnOptions) :
    let start := Socket.create (.isoTp (.initial defaultFrameTxTime))
    let s := CallRun.run Socket.step calls start
    (IsoTpOptionsMirrored start calls s ↔ s.state ≠ .connectedState) ∧
      (s.state = .connectedState → s.protocol.Dangling ∧ (kernelOptions s.descriptor s.trace).Stored) ∧
      (CallRun.Guarded Socket.step (fun c t => c.KeepsTimes t) calls start → s.TimesMirrored) := by
  intro start s
  have guarded : CallRun.Guarded Socket.step (fun c _ => c.OnOptions) calls start := CallRun.guarded_of_all on _
  have reached : IsoTpSession s :=
    CallRun.run_invariant Socket.step_isoTpSession guarded (create_isoTpSession _)
  refine ⟨⟨fun h connected => ?_, fun offline => ?_⟩, fun connected => ?_, fun keeps => ?_⟩
  · have options := congrArg KernelOptions.canIsotpOpts (h.inForce connected)
    have held := (reached.stored connected).1
    rw [options, (reached.dangling connected).1] at held
    cases held
  · have none : s.descriptor = -1 := by
      rcases reached.link with ⟨_, none⟩ | ⟨connected, _⟩
      · exact none
      · exact absurd connected offline
    exact ⟨fun up => absurd up offline, Socket.setSocketOption_own none, fun up => absurd up offline⟩
  · exact ⟨reached.dangling connected, reached.stored connected⟩
  · have both : CallRun.Guarded Socket.step (fun c t => c.OnOptions ∧ c.KeepsTimes t) calls start :=
      CallRun.guarded_and guarded keeps
    exact (CallRun.run_invariant Socket.step_times both ⟨create_isoTpSession _, nofun⟩).2

theorem isoTp_options_mirrored_reconnect :
    let calls : List Call := [
      .connectToInterface "can0" .readWrite (.granting 3),
      .setSocketOption (.isoTpOptions ⟨{ flags := 2, frameTxTime := 0, extAddress := 9 }, false⟩) none,
      .setSocketOption (.rxMinSepTimeOption 5) (some .EINVAL), .close none,
      .connectToInterface "can0" .readWrite (.granting 4), .setSocketOption (.txMinSepTimeOption 5) none]
    let start := Socket.create (.isoTp (.initial 50000))
    let s := CallRun.run Socket.step calls start
    (IsoTpOptionsMirrored start calls s ↔ s.state ≠ .connectedState) ∧
      (s.state = .connectedState → s.protocol.Dangling ∧ (kernelOptions s.descriptor s.trace).Stored) ∧
      (CallRun.Guarded Socket.step (fun c t => c.KeepsTimes t) calls start → s.TimesMirrored) :=
  isoTp_options_mirrored 50000 (by simp [Call.OnOptions])

/-- Any connect leaves the option objects dangling. Besides, a receive time goes to the kernel under the name of the
transmit time, and a transmit time that was accepted is gone after the next connect. -/
theorem isoTp_options_mirrored_fails :
    let start := Socket.create (.isoTp (.initial 50000))
    let s := start.step (.connectToInterface "can0" .readWrite (.granting 3))
    let t := s.step (.setSocketOption (.rxMinSepTimeOption 5) none)
    let u := CallRun.run Socket.step [.setSocketOption (.txMinSepTimeOption 5) none, .close none,
      .connectToInterface "can0" .readWrite (.granting 3)] s
    (s.state = .connectedState ∧ s.protocol.reported.canIsotpOpts = none ∧
      (kernelOptions s.descriptor s.trace).canIsotpOpts = some { frameTxTime := 50000 } ∧
      ¬IsoTpOptionsMirrored start [.connectToInterface "can0" .readWrite (.granting 3)] s) ∧
    (t.state = .connectedState ∧ (kernelOptions t.descriptor t.trace).times = (5, 0) ∧
      t.protocol.reported.times = (0, 5)) ∧
    u.state = .connectedState ∧ u.protocol.reported.times = (0, 0) := by
  intro start s t u
  refine ⟨⟨by decide, by decide, by decide, fun h => ?_⟩, by decide, by decide⟩
  exact absurd (h.inForce (by decide)) (by decide)

end CanSocket
