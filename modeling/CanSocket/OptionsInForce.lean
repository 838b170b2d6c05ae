import CanSocket.Link
import CanSocket.OptionReplay

namespace CanSocket

open Mirror

/-- The calls that open or close the connection or set an option. -/
def Call.OnOptions : Call → Prop
  | .connectToInterface .. => True
  | .close _ => True
  | .setSocketOption .. => True
  | _ => False

/-- The option a call sets, if the library accepts it. -/
def Call.accepted (c : Call) (s : Socket) : List SocketOption :=
  match c with
  | .setSocketOption option answer =>
    if (s.setSocketOption Slot.idle option answer).1 then [option] else []
  | _ => []

/-- The options set successfully in a run, in order. -/
def acceptedOptions (calls : List Call) (s : Socket) : List SocketOption :=
  CallRun.gather Socket.step Call.accepted calls s

def Call.acts (c : Call) (s : Socket) : List (Act SocketOption) :=
  match c with
  | .connectToInterface interfaceName mode env =>
    if (s.connectToInterface Slot.idle interfaceName mode env).1 then [.begin] else []
  | .close _ => [.finish]
  | c => (c.accepted s).map Act.grant

/-- The options of a socket as a mirror of those of its kernel socket. -/
def Socket.settings (s : Socket) : Settings KernelOptions :=
  ⟨s.protocol.reported,
    if s.state = .connectedState then some (kernelOptions s.descriptor s.trace) else none⟩

/-- Between the calls of a run a socket is connected or has no descriptor. -/
def Socket.Linked (s : Socket) : Prop :=
  s.state = .unconnectedState ∧ s.descriptor = -1 ∨ s.state = .connectedState ∧ s.descriptor ≠ -1

/-- What holds of a raw socket between the calls of such a run. -/
structure Mirrors (s : Socket) : Prop where
  link : s.Linked
  inSync : InSync s.settings
  raw : ∃ o, s.protocol = .raw o

namespace Socket

theorem settings_of_optionView {s t : Socket} (same : t.optionView = s.optionView) :
    t.settings = s.settings := by
  have state : t.state = s.state := congrArg OptionView.state same
  have descriptor : t.descriptor = s.descriptor := congrArg OptionView.descriptor same
  have protocol : t.protocol = s.protocol := congrArg OptionView.protocol same
  have kernel := kernelOptions_of_optionView s.descriptor (congrArg OptionView.trace same)
  rw [settings, settings, state, descriptor, protocol, kernel]

/-- The kernel name of a raw option is its own. -/
theorem set_kernelOption {o : CanRawOptions} {option : SocketOption} {kernel : KernelOption} (k : KernelOptions)
    (asks : (Protocol.raw o).kernelOption option = some kernel) : k.set kernel = option.put k := by
  cases option <;> cases asks <;> rfl

theorem SetsOption.told {option : SocketOption} {answer : Option Errno} {s t : Socket} {o : CanRawOptions}
    (raw : s.protocol = .raw o) (h : SetsOption option answer s (true, t)) :
    t.protocol.reported = option.put s.protocol.reported := by
  rw [h.grants.1, raw]
  cases h with
  | stored _ asks nameless _ => rw [Protocol.reported_store_nameless (raw ▸ asks), nameless]
  | granted kernel _ asks _ _ _ => exact Protocol.reported_store_raw (raw ▸ asks)

/-- An accepted option is new at the socket's own descriptor and nowhere else. -/
theorem SetsOption.placed {option : SocketOption} {answer : Option Errno} {s t : Socket} {o : CanRawOptions}
    (raw : s.protocol = .raw o) (h : SetsOption option answer s (true, t)) :
    ∀ d, kernelOptions d t.trace =
      if d = s.descriptor then option.put (kernelOptions d s.trace) else kernelOptions d s.trace := by
  intro d
  rw [h.grants.2.1]
  split
  next =>
    cases h with
    | stored _ asks nameless _ => simp [asks, nameless]
    | granted kernel _ asks _ _ _ =>
      rw [asks]
      exact set_kernelOption _ (raw ▸ asks)
  next => rfl

theorem SetsOption.settings {option : SocketOption} {answer : Option Errno} {s t : Socket} {o : CanRawOptions}
    (raw : s.protocol = .raw o) (h : SetsOption option answer s (true, t)) :
    t.settings = post SocketOption.put (.grant option) s.settings := by
  have state : t.state = s.state := h.frame.1
  have descriptor : t.descriptor = s.descriptor := h.frame.2.1
  have known := h.placed raw s.descriptor
  rw [if_pos rfl] at known
  by_cases connected : s.state = .connectedState
  · simp [Socket.settings, post, state, descriptor, h.told raw, connected, known]
  · simp [Socket.settings, post, state, h.told raw, connected]

theorem setSocketOption_settings (option : SocketOption) (answer : Option Errno) {s : Socket} (h : Mirrors s) :
    (s.setSocketOption Slot.idle option answer).2.settings =
      CallRun.run (post SocketOption.put) ((Call.setSocketOption option answer).acts s) s.settings := by
  obtain ⟨o, raw⟩ := h.raw
  have sets := setSocketOption_sets option answer s
  unfold Call.acts Call.accepted
  dsimp only
  rcases eq : s.setSocketOption Slot.idle option answer with ⟨_ | _, t⟩
  · rw [eq] at sets
    obtain ⟨protocol, kernel, _⟩ := sets.rejects
    obtain ⟨state, descriptor, _⟩ := sets.frame
    dsimp only at state descriptor
    simp [settings, protocol, kernel, state, descriptor]
  · rw [eq] at sets
    exact sets.settings raw

theorem close_settings {s : Socket} (h : Mirrors s) (answer : Option Errno) :
    (s.close Slot.idle answer).settings = post SocketOption.put .finish s.settings := by
  rcases h.link with ⟨state, _⟩ | ⟨state, _⟩
  · simp [close, state, settings, post]
  · have view := optionView_close (s := s) (by rw [state]; decide) answer
    have down : (s.close Slot.idle answer).state = .unconnectedState := congrArg OptionView.state view
    have protocol : (s.close Slot.idle answer).protocol = s.protocol := congrArg OptionView.protocol view
    simp [settings, post, down, protocol]

theorem connectOptions_fixed (env : ConnectEnv) (o : CanRawOptions) :
    ∀ option ∈ connectOptions env, (Protocol.raw o).store (option (.raw o)) = .raw o := by
  intro option mem
  simp only [connectOptions, List.mem_cons, List.not_mem_nil, or_false] at mem
  rcases mem with rfl | rfl | rfl | rfl | rfl <;> rfl

/-- The fields of a raw socket come out of a replay as they went in. -/
theorem replay_keeps {env : ConnectEnv} {o : CanRawOptions} {w u : Socket} {granted : Bool}
    (raw : w.protocol = .raw o)
    (replay : w.replayOptions Slot.idle env.setsockopt (connectOptions env) 0 = (granted, u)) :
    u.protocol = .raw o := by
  have kept := @replayOptions_fixed (connectOptions env) w
  rw [raw] at kept
  have same := kept (connectOptions_fixed env o) env.setsockopt 0
  rwa [replay] at same

theorem connectToInterface_protocol {interfaceName : String} {mode : OpenMode} {env : ConnectEnv} {s : Socket}
    {o : CanRawOptions} (raw : s.protocol = .raw o) :
    (s.connectToInterface Slot.idle interfaceName mode env).2.protocol = .raw o := by
  have connects := connectToInterface_connects interfaceName mode env s
  generalize s.connectToInterface Slot.idle interfaceName mode env = r at connects
  cases connects with
  | refused t view => exact (congrArg OptionView.protocol view).trans raw
  | unopened events t _ _ view => exact (congrArg OptionView.protocol view).trans raw
  | unset d w u t _ _ _ wview replay view =>
    exact (congrArg OptionView.protocol view).trans
      (replay_keeps ((congrArg OptionView.protocol wview).trans raw) replay)
  | unbound d w u t e _ _ _ wview replay view =>
    exact (congrArg OptionView.protocol view).trans
      (replay_keeps ((congrArg OptionView.protocol wview).trans raw) replay)
  | connected d w u t _ _ _ wview replay view _ =>
    exact (congrArg OptionView.protocol view).trans
      (replay_keeps ((congrArg OptionView.protocol wview).trans raw) replay)

theorem connectToInterface_settings (interfaceName : String) (mode : OpenMode) (env : ConnectEnv) {s : Socket}
    (h : Mirrors s) :
    (s.connectToInterface Slot.idle interfaceName mode env).2.settings =
      CallRun.run (post SocketOption.put) ((Call.connectToInterface interfaceName mode env).acts s)
        s.settings := by
  obtain ⟨o, raw⟩ := h.raw
  have connects := connectToInterface_connects interfaceName mode env s
  have protocol := @connectToInterface_protocol interfaceName mode env s o raw
  unfold Call.acts
  dsimp only
  generalize s.connectToInterface Slot.idle interfaceName mode env = r at connects protocol
  have offline : ∀ t : Socket, s.state = .unconnectedState → t.state = .unconnectedState →
      t.protocol = .raw o → t.settings = s.settings := by
    intro t before after protocol
    simp [settings, before, after, protocol, raw]
  cases connects with
  | refused t view => exact settings_of_optionView view
  | unopened events t unconnected _ view =>
    exact offline t unconnected ((congrArg OptionView.state view).trans unconnected) protocol
  | unset d w u t unconnected _ _ _ _ view =>
    exact offline t unconnected (congrArg OptionView.state view) protocol
  | unbound d w u t e unconnected _ _ _ _ view =>
    exact offline t unconnected (congrArg OptionView.state view) protocol
  | connected d w u t unconnected supported opens wview replay view trace =>
    obtain ⟨descriptor, _, kernel⟩ := replayed_of_granted wview replay
    have state : t.state = .connectedState := congrArg OptionView.state view
    have here : t.descriptor = d := (congrArg OptionView.descriptor view).trans descriptor
    have inForce : kernelOptions d t.trace = s.protocol.reported := by
      rw [trace, kernelOptions_append, kernel, raw]
      rfl
    have told : t.protocol.reported = s.protocol.reported := by
      rw [show t.protocol = .raw o from protocol, raw]
    simp [settings, state, here, told, inForce, post]

theorem connectToInterface_in_force {interfaceName : String} {mode : OpenMode} {env : ConnectEnv} {s : Socket}
    (h : Mirrors s) (ok : (s.connectToInterface Slot.idle interfaceName mode env).1 = true) :
    kernelOptions (s.connectToInterface Slot.idle interfaceName mode env).2.descriptor
      (s.connectToInterface Slot.idle interfaceName mode env).2.trace = s.protocol.reported := by
  have after := connectToInterface_settings interfaceName mode env h
  unfold Call.acts at after
  dsimp only at after
  rw [if_pos ok] at after
  have inForce := congrArg Settings.inForce after
  unfold settings at inForce
  dsimp only at inForce
  split at inForce
  next => exact Option.some.inj inForce
  next => cases inForce

theorem step_settings {c : Call} {s : Socket} (on : c.OnOptions) (h : Mirrors s) :
    (s.step c).settings = CallRun.run (post SocketOption.put) (c.acts s) s.settings := by
  cases c with
  | connectToInterface interfaceName mode env => exact connectToInterface_settings interfaceName mode env h
  | close answer => exact close_settings h answer
  | setSocketOption option answer => exact setSocketOption_settings option answer h
  | _ => exact on.elim

theorem step_linked (c : Call) {s : Socket} (h : s.Linked) : (s.step c).Linked := by
  have connection : c.OnConnection → (s.step c).Linked := by
    intro on
    have kept : (s.step c).linkView = s.linkView := linkView_partsKeep.exec on (fun _ _ => trivial) s
    have state : (s.step c).state = s.state := congrArg LinkView.state kept
    have descriptor : (s.step c).descriptor = s.descriptor := congrArg LinkView.descriptor kept
    unfold Linked
    rwa [state, descriptor]
  unfold Linked at h ⊢
  cases c with
  | connectToInterface interfaceName mode env =>
    have connects := connectToInterface_connects interfaceName mode env s
    unfold step exec
    dsimp only
    generalize s.connectToInterface Slot.idle interfaceName mode env = r at connects
    cases connects with
    | refused t view =>
      have state : t.state = s.state := congrArg OptionView.state view
      have descriptor : t.descriptor = s.descriptor := congrArg OptionView.descriptor view
      rwa [state, descriptor]
    | unopened events t unconnected _ view =>
      exact Or.inl ⟨(congrArg OptionView.state view).trans unconnected, congrArg OptionView.descriptor view⟩
    | unset d w u t _ _ _ _ _ view =>
      exact Or.inl ⟨congrArg OptionView.state view, congrArg OptionView.descriptor view⟩
    | unbound d w u t e _ _ _ _ _ view =>
      exact Or.inl ⟨congrArg OptionView.state view, congrArg OptionView.descriptor view⟩
    | connected d w u t _ _ _ wview replay view _ =>
      refine Or.inr ⟨congrArg OptionView.state view, ?_⟩
      have here : t.descriptor = d :=
        (congrArg OptionView.descriptor view).trans (replayed_of_granted wview replay).1
      show t.descriptor ≠ -1
      omega
  | close answer =>
    by_cases unconnected : s.state = .unconnectedState
    · simpa [step, exec, close, unconnected] using h
    · have view := optionView_close unconnected answer
      exact Or.inl ⟨congrArg OptionView.state view, congrArg OptionView.descriptor view⟩
  | setSocketOption option answer =>
    obtain ⟨state, descriptor, _⟩ := (setSocketOption_sets option answer s).frame
    rw [← state, ← descriptor] at h
    exact h
  | _ => exact connection trivial

theorem connectToInterface_keeps {P : Protocol → Prop} (stores : ∀ p option, P p → P (p.store option))
    {s : Socket} (h : P s.protocol) (interfaceName : String) (mode : OpenMode) (env : ConnectEnv) :
    P (s.connectToInterface Slot.idle interfaceName mode env).2.protocol := by
  have connects := connectToInterface_connects interfaceName mode env s
  generalize s.connectToInterface Slot.idle interfaceName mode env = r at connects
  have replay : ∀ {w u : Socket} {granted : Bool}, w.protocol = s.protocol →
      w.replayOptions Slot.idle env.setsockopt (connectOptions env) 0 = (granted, u) → P u.protocol := by
    intro w u granted protocol eq
    have kept := replayOptions_protocol stores env.setsockopt (connectOptions env) 0 (protocol ▸ h)
    rwa [eq] at kept
  have same : ∀ {t u : Socket}, t.protocol = u.protocol → P u.protocol → P t.protocol := by
    intro t u eq kept
    rwa [eq]
  cases connects with
  | refused t view => exact same (congrArg OptionView.protocol view) h
  | unopened events t _ _ view => exact same (congrArg OptionView.protocol view) h
  | unset d w u t _ _ _ wview eq view =>
    exact same (congrArg OptionView.protocol view) (replay (congrArg OptionView.protocol wview) eq)
  | unbound d w u t e _ _ _ wview eq view =>
    exact same (congrArg OptionView.protocol view) (replay (congrArg OptionView.protocol wview) eq)
  | connected d w u t _ _ _ wview eq view _ =>
    exact same (congrArg OptionView.protocol view) (replay (congrArg OptionView.protocol wview) eq)

/-- What every stored option keeps, each of these calls keeps. -/
theorem step_keeps {P : Protocol → Prop} (stores : ∀ p option, P p → P (p.store option)) {c : Call} {s : Socket}
    (on : c.OnOptions) (h : P s.protocol) : P (s.step c).protocol := by
  cases c with
  | connectToInterface interfaceName mode env => exact connectToInterface_keeps stores h interfaceName mode env
  | close answer =>
    by_cases unconnected : s.state = .unconnectedState
    · simpa [step, exec, close, unconnected] using h
    · have protocol : (s.step (.close answer)).protocol = s.protocol :=
        congrArg OptionView.protocol (optionView_close unconnected answer)
      rwa [protocol]
  | setSocketOption option answer =>
    have frame : (s.step (.setSocketOption option answer)).protocol = s.protocol ∨
        (s.step (.setSocketOption option answer)).protocol = s.protocol.store option :=
      (setSocketOption_sets option answer s).frame.2.2
    rcases frame with same | stored
    · rwa [same]
    · rw [stored]
      exact stores _ _ h
  | _ => exact on.elim

theorem store_raw (p : Protocol) (option : SocketOption) (raw : ∃ o, p = .raw o) :
    ∃ o, p.store option = .raw o := by
  obtain ⟨o, rfl⟩ := raw
  cases option <;> exact ⟨_, rfl⟩

theorem store_isoTp (p : Protocol) (option : SocketOption) (isoTp : ∃ f, p = .isoTp f) :
    ∃ f, p.store option = .isoTp f := by
  obtain ⟨f, rfl⟩ := isoTp
  cases option <;> exact ⟨_, rfl⟩

theorem step_mirrors (c : Call) (s : Socket) (on : c.OnOptions) (h : Mirrors s) : Mirrors (s.step c) := by
  refine ⟨step_linked c h.link, ?_, step_keeps store_raw on h.raw⟩
  rw [step_settings on h]
  exact run_inSync h.inSync _

end Socket

theorem accepted_eq (c : Call) (s : Socket) : (c.acts s).filterMap Act.granted = c.accepted s := by
  have sets : ∀ options : List SocketOption, (options.map Act.grant).filterMap Act.granted = options := by
    intro options
    simp [List.filterMap_map, Function.comp_def, Act.granted]
  cases c with
  | connectToInterface interfaceName mode env =>
    unfold Call.acts
    dsimp only
    split <;> rfl
  | close answer => rfl
  | _ => exact sets _

/-- After a run on a raw socket the values told are the ones accepted, in order. -/
theorem reported_run {calls : List Call} {s : Socket}
    (guarded : CallRun.Guarded Socket.step (fun c _ => c.OnOptions) calls s) (start : Mirrors s) :
    (CallRun.run Socket.step calls s).protocol.reported =
      CallRun.run SocketOption.put (acceptedOptions calls s) s.protocol.reported := by
  have refined : (CallRun.run Socket.step calls s).settings =
      CallRun.run (post SocketOption.put) (CallRun.gather Socket.step Call.acts calls s) s.settings :=
    CallRun.run_refines Socket.step_mirrors (fun _ _ on h => Socket.step_settings on h) guarded start
  have told := (congrArg Settings.told refined).trans (run_told _ _)
  rw [CallRun.gather_filterMap, funext fun c => funext fun s => accepted_eq c s] at told
  exact told

theorem create_mirrors (o : CanRawOptions) : Mirrors (Socket.create (.raw o)) :=
  ⟨Or.inl ⟨rfl, rfl⟩, nofun, o, rfl⟩

theorem Mirrors.in_force {s : Socket} (h : Mirrors s) (connected : s.state = .connectedState) :
    kernelOptions s.descriptor s.trace = s.protocol.reported :=
  h.inSync _ (by simp [Socket.settings, connected])

end CanSocket
