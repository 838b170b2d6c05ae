import CanSocket.OptionsInForce

namespace CanSocket

/-- What a raw socket that has done these calls lets its user rely on. -/
structure RawOptionsMirrored (calls : List Call) (s : Socket) : Prop where
  inForce : s.state = .connectedState → kernelOptions s.descriptor s.trace = s.protocol.reported
  told : s.protocol.reported =
    CallRun.run SocketOption.put (acceptedOptions calls (.create (.raw {}))) {}
  rejected : ∀ option answer, (s.setSocketOption Slot.idle option answer).1 = false →
    (s.setSocketOption Slot.idle option answer).2.protocol = s.protocol ∧
      ∀ d, kernelOptions d (s.setSocketOption Slot.idle option answer).2.trace = kernelOptions d s.trace
  accepted : ∀ option answer, (s.setSocketOption Slot.idle option answer).1 = true →
    (s.setSocketOption Slot.idle option answer).2.protocol.reported = option.put s.protocol.reported ∧
      ∀ d, kernelOptions d (s.setSocketOption Slot.idle option answer).2.trace =
        if d = s.descriptor then option.put (kernelOptions d s.trace) else kernelOptions d s.trace
  announced : ∀ option answer, changes (s.setSocketOption Slot.idle option answer).2.trace =
    changes s.trace ++
      if (s.setSocketOption Slot.idle option answer).2.protocol = s.protocol then []
      else option.changed.toList.map Event.signal
  replayed : ∀ interfaceName mode env,
    (s.connectToInterface Slot.idle interfaceName mode env).2.protocol = s.protocol ∧
      changes (s.connectToInterface Slot.idle interfaceName mode env).2.trace = changes s.trace ∧
      ((s.connectToInterface Slot.idle interfaceName mode env).1 = true →
        kernelOptions (s.connectToInterface Slot.idle interfaceName mode env).2.descriptor
          (s.connectToInterface Slot.idle interfaceName mode env).2.trace = s.protocol.reported)

namespace Socket

/-- What an option accepted by a raw socket comes to. -/
theorem setSocketOption_raw {option : SocketOption} {answer : Option Errno} {s : Socket} {o : CanRawOptions}
    (raw : s.protocol = .raw o) (granted : (s.setSocketOption Slot.idle option answer).1 = true) :
    (s.setSocketOption Slot.idle option answer).2.protocol.reported = option.put s.protocol.reported ∧
      ∀ d, kernelOptions d (s.setSocketOption Slot.idle option answer).2.trace =
        if d = s.descriptor then option.put (kernelOptions d s.trace) else kernelOptions d s.trace := by
  have sets := setSocketOption_sets option answer s
  obtain ⟨t, eq⟩ : ∃ t, s.setSocketOption Slot.idle option answer = (true, t) :=
    ⟨_, Prod.ext granted rfl⟩
  rw [eq] at sets ⊢
  exact ⟨sets.told raw, sets.placed raw⟩

theorem setSocketOption_changes {option : SocketOption} {answer : Option Errno} {s : Socket} {o : CanRawOptions}
    (raw : s.protocol = .raw o) :
    changes (s.setSocketOption Slot.idle option answer).2.trace = changes s.trace ++
      if (s.setSocketOption Slot.idle option answer).2.protocol = s.protocol then []
      else option.changed.toList.map Event.signal := by
  have sets := setSocketOption_sets option answer s
  rcases eq : s.setSocketOption Slot.idle option answer with ⟨_ | _, t⟩ <;> rw [eq] at sets
  · obtain ⟨protocol, _, quiet⟩ := sets.rejects
    simp [protocol, quiet]
  · obtain ⟨protocol, _, announced⟩ := sets.grants
    have exact_change := Protocol.differs_raw o option
    rw [announced]
    dsimp only
    rw [protocol, raw, Protocol.announces]
    by_cases same : (Protocol.raw o).store option = .raw o
    · rw [if_pos same, if_neg (by simpa [same] using exact_change)]
    · rw [if_neg same, if_pos (exact_change.mpr same)]

theorem connectToInterface_changes {interfaceName : String} {mode : OpenMode} {env : ConnectEnv} {s : Socket}
    {o : CanRawOptions} (raw : s.protocol = .raw o) :
    changes (s.connectToInterface Slot.idle interfaceName mode env).2.trace = changes s.trace := by
  have connects := connectToInterface_connects interfaceName mode env s
  have silent : ∀ {t u : Socket} {events : List Event}, t.optionView.trace = u.optionView.trace ++ events →
      changes events = [] → changes t.trace = changes u.trace := by
    intro t u events view quiet
    rw [← optionView_changes, view, ← optionView_changes u, changes, List.filter_append]
    rw [show events.filter _ = [] from quiet, List.append_nil]
    rfl
  have replay : ∀ {w u : Socket} {d : Nat} {granted : Bool},
      w.optionView = { s.optionView.log [.opened d] with state := .connectingState, descriptor := d } →
      w.replayOptions Slot.idle env.setsockopt (connectOptions env) 0 = (granted, u) →
      changes u.trace = changes s.trace := by
    intro w u d granted view eq
    have protocol : w.protocol = .raw o := (congrArg OptionView.protocol view).trans raw
    have quiet := @replayOptions_quiet (connectOptions env) w (by simp [connectOptions, protocol, Protocol.differs])
      env.setsockopt 0
    rw [eq] at quiet
    exact quiet.trans (silent (congrArg OptionView.trace view) rfl)
  generalize s.connectToInterface Slot.idle interfaceName mode env = r at connects
  cases connects with
  | refused t view => exact silent ((congrArg OptionView.trace view).trans (List.append_nil _).symm) rfl
  | unopened events t _ opened view =>
    refine silent (congrArg OptionView.trace view) (List.filter_eq_nil_iff.mpr ?_)
    intro e mem
    obtain ⟨d, rfl⟩ := opened e mem
    simp
  | unset d w u t _ _ _ wview eq view =>
    exact (silent ((congrArg OptionView.trace view).trans (List.append_nil _).symm) rfl).trans (replay wview eq)
  | unbound d w u t e _ _ _ wview eq view =>
    exact (silent (congrArg OptionView.trace view) rfl).trans (replay wview eq)
  | connected d w u t _ _ _ wview eq view _ =>
    exact (silent (congrArg OptionView.trace view) rfl).trans (replay wview eq)

end Socket

/-- After every run of connects, closes and option settings, whatever the kernel answers, the
options of a raw socket are those of its kernel socket, and each call keeps them so. -/
theorem raw_options_mirrored {calls : List Call} (on : ∀ c ∈ calls, c.OnOptions) :
    RawOptionsMirrored calls (CallRun.run Socket.step calls (.create (.raw {}))) := by
  have guarded : CallRun.Guarded Socket.step (fun c _ => c.OnOptions) calls (.create (.raw {})) :=
    CallRun.guarded_of_all on _
  have start : Mirrors (.create (.raw {})) := create_mirrors {}
  have reached := CallRun.run_invariant Socket.step_mirrors guarded start
  obtain ⟨o, raw⟩ := reached.raw
  refine ⟨reached.in_force, reported_run guarded start, ?_, ?_, ?_, ?_⟩
  · intro option answer failed
    have sets := Socket.setSocketOption_sets option answer (CallRun.run Socket.step calls (.create (.raw {})))
    rw [← Prod.eta (Socket.setSocketOption ..), failed] at sets
    exact ⟨sets.rejects.1, sets.rejects.2.1⟩
  · intro option answer granted
    exact Socket.setSocketOption_raw raw granted
  · intro option answer
    exact Socket.setSocketOption_changes raw
  · intro interfaceName mode env
    exact ⟨(Socket.connectToInterface_protocol raw).trans raw.symm, Socket.connectToInterface_changes raw,
      Socket.connectToInterface_in_force reached⟩

theorem raw_options_mirrored_reconnect :
    RawOptionsMirrored [
        .connectToInterface "can0" .readWrite (.granting 3), .setSocketOption (.canFilterOption [⟨5, 7⟩]) none,
        .setSocketOption (.loopbackOption .disabledLoopback) (some .EINVAL), .close none,
        .connectToInterface "can0" .readWrite (.granting 4)]
      (CallRun.run Socket.step [
        .connectToInterface "can0" .readWrite (.granting 3), .setSocketOption (.canFilterOption [⟨5, 7⟩]) none,
        .setSocketOption (.loopbackOption .disabledLoopback) (some .EINVAL), .close none,
        .connectToInterface "can0" .readWrite (.granting 4)] (.create (.raw {}))) :=
  raw_options_mirrored (by simp [Call.OnOptions])

end CanSocket
