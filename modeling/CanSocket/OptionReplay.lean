import CanSocket.OptionStore

namespace CanSocket

/-- The kernel lets a connect come to its options, with this descriptor. -/
structure ConnectEnv.Opens (env : ConnectEnv) (interfaceName : String) (descriptor : Nat) : Prop where
  socket : env.socket = .ok descriptor
  fcntl : env.fcntl = none
  ifindex : interfaceName = "" ∨ env.ifindex = none

/-- What one option of a connect does to the fields and to a kernel that grants everything. -/
def replayOption (pk : Protocol × KernelOptions) (option : Protocol → SocketOption) :
    Protocol × KernelOptions :=
  (pk.1.store (option pk.1), ((pk.1.kernelOption (option pk.1)).map pk.2.set).getD pk.2)

/-- What a connect leaves in the fields when all is granted: no time it was set to, and no cell of an option object. -/
def Protocol.replayed : Protocol → Protocol
  | .raw o => .raw o
  | .isoTp f => .isoTp { f with
      isoTpOptions := none
      flowControlOptions := none
      txMinSepTime := 0
      rxMinSepTime := 0
      linkLayerOptions := none }

/-- What it leaves with the kernel. -/
def Protocol.handed (env : ConnectEnv) : Protocol → KernelOptions
  | .raw o => (Protocol.raw o).reported
  | .isoTp f => {
      canIsotpOpts := some (f.isoTpOptions.getD env.isoTpOptions.fields)
      canIsotpRecvFc := some (f.flowControlOptions.getD env.flowControlOptions.fields)
      canIsotpLlOpts := some (f.linkLayerOptions.getD env.linkLayerOptions.fields) }

theorem replayOption_connectOptions (env : ConnectEnv) (p : Protocol) :
    (Socket.connectOptions env).foldl replayOption (p, {}) = (p.replayed, p.handed env) := by
  cases p <;> rfl

def changes (trace : List Event) : List Event :=
  trace.filter fun e => match e with
    | .signal sig => sig.isChange
    | _ => false

theorem changes_filter (trace : List Event) : changes (trace.filter Event.onOptions) = changes trace := by
  rw [changes, List.filter_filter]
  apply List.filter_congr
  intro e _
  cases e <;> simp [Event.onOptions]

theorem kernelOptions_announces (descriptor : Int) (p : Protocol) (option : SocketOption) (k : KernelOptions) :
    (p.announces option).foldl (KernelOptions.after descriptor) k = k := by
  unfold Protocol.announces
  split
  next => cases option <;> rfl
  next => rfl

namespace Socket

theorem kernelOptions_of_log {s t : Socket} {events : List Event}
    (view : t.optionView.trace = s.optionView.trace ++ events) (descriptor : Int) :
    kernelOptions descriptor t.trace =
      events.foldl (KernelOptions.after descriptor) (kernelOptions descriptor s.trace) := by
  rw [← kernelOptions_filter descriptor t.trace, ← kernelOptions_filter descriptor s.trace, ← kernelOptions_append]
  exact congrArg (kernelOptions descriptor) view

theorem optionView_changes (s : Socket) : changes s.optionView.trace = changes s.trace := changes_filter _

/-- The part of `SetsOption` that does not depend on the answer. -/
theorem SetsOption.frame {option : SocketOption} {answer : Option Errno} {s : Socket} {r : Bool × Socket}
    (h : SetsOption option answer s r) : r.2.state = s.state ∧ r.2.descriptor = s.descriptor ∧
      (r.2.protocol = s.protocol ∨ r.2.protocol = s.protocol.store option) := by
  cases h with
  | refused => exact ⟨rfl, rfl, Or.inl rfl⟩
  | rejected _ _ _ _ _ view =>
    exact ⟨congrArg OptionView.state view, congrArg OptionView.descriptor view,
      Or.inl (congrArg OptionView.protocol view)⟩
  | stored _ _ _ view =>
    exact ⟨congrArg OptionView.state view, congrArg OptionView.descriptor view,
      Or.inr (congrArg OptionView.protocol view)⟩
  | granted _ _ _ _ _ view =>
    exact ⟨congrArg OptionView.state view, congrArg OptionView.descriptor view,
      Or.inr (congrArg OptionView.protocol view)⟩

/-- A refused or rejected option leaves the fields and every kernel socket alone. -/
theorem SetsOption.rejects {option : SocketOption} {answer : Option Errno} {s t : Socket}
    (h : SetsOption option answer s (false, t)) :
    t.protocol = s.protocol ∧ (∀ d, kernelOptions d t.trace = kernelOptions d s.trace) ∧
      changes t.trace = changes s.trace := by
  cases h with
  | refused => exact ⟨rfl, fun _ => rfl, rfl⟩
  | rejected kernel e _ _ _ view =>
    refine ⟨congrArg OptionView.protocol view, kernelOptions_of_log (congrArg OptionView.trace view), ?_⟩
    rw [← optionView_changes, view, ← optionView_changes s]
    simp [OptionView.log, changes]

/-- An option that is set is stored, and announced, and known to the kernel of the descriptor. -/
theorem SetsOption.grants {option : SocketOption} {answer : Option Errno} {s t : Socket}
    (h : SetsOption option answer s (true, t)) :
    t.protocol = s.protocol.store option ∧
      (∀ d, kernelOptions d t.trace = if d = s.descriptor then
        ((s.protocol.kernelOption option).map (kernelOptions d s.trace).set).getD (kernelOptions d s.trace)
      else kernelOptions d s.trace) ∧
      changes t.trace = changes s.trace ++ s.protocol.announces option := by
  have announced : changes (s.protocol.announces option) = s.protocol.announces option := by
    unfold Protocol.announces
    split
    next => cases option <;> rfl
    next => rfl
  cases h with
  | stored _ asks _ view =>
    refine ⟨congrArg OptionView.protocol view, fun d => ?_, ?_⟩
    · rw [kernelOptions_of_log (congrArg OptionView.trace view), kernelOptions_announces, asks]
      simp
    · rw [← optionView_changes, view, ← optionView_changes s]
      simpa [OptionView.log, changes] using announced
  | granted kernel _ asks _ _ view =>
    refine ⟨congrArg OptionView.protocol view, fun d => ?_, ?_⟩
    · rw [kernelOptions_of_log (congrArg OptionView.trace view), List.foldl_cons, kernelOptions_announces, asks]
      by_cases here : d = s.descriptor
      · simp [here, KernelOptions.after]
      · simp [here, KernelOptions.after, Ne.symm here]
    · rw [← optionView_changes, view, ← optionView_changes s]
      simpa [OptionView.log, changes] using announced

theorem replayOptions_frame (answers : Nat → Option Errno) (options : List (Protocol → SocketOption))
    (i : Nat) (s : Socket) :
    (s.replayOptions Slot.idle answers options i).2.state = s.state ∧
      (s.replayOptions Slot.idle answers options i).2.descriptor = s.descriptor := by
  induction options generalizing i s with
  | nil => exact ⟨rfl, rfl⟩
  | cons option options ih =>
    obtain ⟨state, descriptor, _⟩ := (setSocketOption_sets (option s.protocol) (answers i) s).frame
    unfold replayOptions
    split
    next t eq =>
      rw [eq] at state descriptor
      exact ⟨state, descriptor⟩
    next t eq =>
      rw [eq] at state descriptor
      obtain ⟨state', descriptor'⟩ := ih (i + 1) t
      exact ⟨state'.trans state, descriptor'.trans descriptor⟩

/-- What every stored option keeps, a replay keeps. -/
theorem replayOptions_protocol {P : Protocol → Prop} (stores : ∀ p option, P p → P (p.store option))
    (answers : Nat → Option Errno) (options : List (Protocol → SocketOption)) (i : Nat) {s : Socket}
    (h : P s.protocol) : P (s.replayOptions Slot.idle answers options i).2.protocol := by
  induction options generalizing i s with
  | nil => exact h
  | cons option options ih =>
    have kept : P (s.setSocketOption Slot.idle (option s.protocol) (answers i)).2.protocol := by
      rcases (setSocketOption_sets (option s.protocol) (answers i) s).frame.2.2 with same | stored
      · rwa [same]
      · rw [stored]
        exact stores _ _ h
    unfold replayOptions
    split
    next t eq => rwa [eq] at kept
    next t eq =>
      rw [eq] at kept
      exact ih (i + 1) kept

/-- Where setting the options again stores what is there already, a replay leaves the fields
as they are, however far it comes. -/
theorem replayOptions_fixed {options : List (Protocol → SocketOption)} {s : Socket}
    (fixed : ∀ option ∈ options, s.protocol.store (option s.protocol) = s.protocol)
    (answers : Nat → Option Errno) (i : Nat) :
    (s.replayOptions Slot.idle answers options i).2.protocol = s.protocol := by
  induction options generalizing i s with
  | nil => rfl
  | cons option options ih =>
    have kept : (s.setSocketOption Slot.idle (option s.protocol) (answers i)).2.protocol = s.protocol := by
      rcases (setSocketOption_sets (option s.protocol) (answers i) s).frame.2.2 with same | stored
      · exact same
      · exact stored.trans (fixed option (by simp))
    unfold replayOptions
    split
    next t eq => rwa [eq] at kept
    next t eq =>
      rw [eq] at kept
      refine (ih ?_ (i + 1)).trans kept
      intro later mem
      rw [show t.protocol = s.protocol from kept]
      exact fixed later (by simp [mem])

theorem replayOptions_quiet {options : List (Protocol → SocketOption)} {s : Socket}
    (same : ∀ option ∈ options, s.protocol.differs (option s.protocol) = false)
    (answers : Nat → Option Errno) (i : Nat) :
    changes (s.replayOptions Slot.idle answers options i).2.trace = changes s.trace := by
  induction options generalizing i s with
  | nil => rfl
  | cons option options ih =>
    have sets := setSocketOption_sets (option s.protocol) (answers i) s
    unfold replayOptions
    split
    next t eq =>
      rw [eq] at sets
      exact sets.rejects.2.2
    next t eq =>
      rw [eq] at sets
      obtain ⟨protocol, _, announced⟩ := sets.grants
      have unchanged := same option (by simp)
      rw [Protocol.store_of_not_differs unchanged] at protocol
      rw [Protocol.announces, unchanged] at announced
      refine (ih ?_ (i + 1)).trans (by simpa using announced)
      intro later mem
      rw [protocol]
      exact same later (by simp [mem])

/-- A replay that goes through leaves the fields and the kernel as its options say. -/
theorem replayOptions_granted {answers : Nat → Option Errno} {options : List (Protocol → SocketOption)}
    {i : Nat} {s t : Socket} (granted : s.replayOptions Slot.idle answers options i = (true, t)) :
    (t.protocol, kernelOptions t.descriptor t.trace) =
      options.foldl replayOption (s.protocol, kernelOptions s.descriptor s.trace) := by
  induction options generalizing i s with
  | nil =>
    cases granted
    rfl
  | cons option options ih =>
    have sets := setSocketOption_sets (option s.protocol) (answers i) s
    unfold replayOptions at granted
    split at granted
    next => cases granted
    next u eq =>
      rw [eq] at sets
      obtain ⟨protocol, kernel, _⟩ := sets.grants
      have descriptor : u.descriptor = s.descriptor := sets.frame.2.1
      rw [ih granted, protocol, descriptor, kernel, if_pos rfl]
      rfl

/-- The state in which `openDescriptor` sets the options. -/
def opened (descriptor : Nat) (s : Socket) : Socket :=
  ({ s with descriptor := descriptor }).log (.opened descriptor)

theorem optionView_opened (descriptor : Nat) (s : Socket) :
    (s.opened descriptor).optionView =
      { s.optionView.log [.opened descriptor] with descriptor := descriptor } :=
  optionView_log_on rfl { s with descriptor := descriptor }

/-- The steps `openDescriptor` can end after with no slot connected. -/
inductive Opens (interfaceName : String) (env : ConnectEnv) (s : Socket) : Bool × Socket → Prop
  | unopened (events : List Event) (t : Socket) : (∀ e ∈ events, ∃ d, e = .opened d) →
      t.optionView = { s.optionView.log events with descriptor := t.descriptor } →
      Opens interfaceName env s (false, t)
  | unset (d : Nat) (t : Socket) : env.Opens interfaceName d →
      (s.opened d).replayOptions Slot.idle env.setsockopt (connectOptions env) 0 = (false, t) →
      Opens interfaceName env s (false, t)
  | unbound (d : Nat) (u t : Socket) (e : Errno) : env.Opens interfaceName d →
      (s.opened d).replayOptions Slot.idle env.setsockopt (connectOptions env) 0 = (true, u) →
      t.optionView = u.optionView.log [.bind d s.protocol.bindIds (some e)] →
      Opens interfaceName env s (false, t)
  | bound (d : Nat) (u : Socket) : env.Opens interfaceName d →
      (s.opened d).replayOptions Slot.idle env.setsockopt (connectOptions env) 0 = (true, u) →
      Opens interfaceName env s (true, u.log (.bind d s.protocol.bindIds none))

theorem openDescriptor_opens (interfaceName : String) (env : ConnectEnv) (s : Socket) :
    Opens interfaceName env s (s.openDescriptor Slot.idle interfaceName env) := by
  have early : ∀ (d : Nat) (e : Errno), Opens interfaceName env s (false, (s.opened d).setSystemError Slot.idle e) := by
    intro d e
    refine .unopened [.opened d] _ (by simp) ?_
    rw [optionView_setSystemError, optionView_opened]
    rfl
  unfold openDescriptor
  dsimp only
  split
  next e _ =>
    refine .unopened [] _ (by simp) ?_
    rw [optionView_setSystemError]
    simp [OptionView.log, optionView, setSystemError, setError, setErrno, emit, log, Slot.idle]
  next d socket =>
    split
    next e _ => exact early d e
    next fcntl =>
      split
      next e _ => exact early d e
      next ifindex =>
        have opens : env.Opens interfaceName d := by
          refine ⟨socket, fcntl, ?_⟩
          by_cases name : interfaceName = ""
          · exact Or.inl name
          · exact Or.inr (by rwa [if_neg name] at ifindex)
        have descriptor := (replayOptions_frame env.setsockopt (connectOptions env) 0 (s.opened d)).2
        split
        next t eq => exact .unset d t opens eq
        next t eq =>
          have here : t.descriptor = d := by
            rw [show ((s.opened d).replayOptions Slot.idle env.setsockopt (connectOptions env) 0) = (true, t)
              from eq] at descriptor
            exact descriptor
          have attached : (d : Int) ≠ -1 := by omega
          rw [here, if_neg attached]
          cases env.bind with
          | some e =>
            exact .unbound d t _ e opens eq ((optionView_setSystemError _ _).trans (optionView_log_on rfl t))
          | none => exact .bound d t opens eq

/-- The options told and in force at the bind of a connect that gets there. -/
theorem replayed_of_granted {d : Nat} {env : ConnectEnv} {s w u : Socket}
    (view : w.optionView = { s.optionView.log [.opened d] with state := .connectingState, descriptor := d })
    (granted : w.replayOptions Slot.idle env.setsockopt (connectOptions env) 0 = (true, u)) :
    u.descriptor = d ∧ u.protocol = s.protocol.replayed ∧ kernelOptions d u.trace = s.protocol.handed env := by
  have descriptor : u.descriptor = d := by
    have same := (replayOptions_frame env.setsockopt (connectOptions env) 0 w).2
    rw [granted] at same
    exact same.trans (congrArg OptionView.descriptor view)
  have effect := replayOptions_granted granted
  have before : w.descriptor = d := congrArg OptionView.descriptor view
  have protocol : w.protocol = s.protocol := congrArg OptionView.protocol view
  have fresh : kernelOptions d w.trace = {} := by
    rw [kernelOptions_of_log (s := s) (congrArg OptionView.trace view)]
    simp [KernelOptions.after]
  rw [descriptor, before, protocol, fresh, replayOption_connectOptions] at effect
  exact ⟨descriptor, congrArg Prod.fst effect, congrArg Prod.snd effect⟩

/-- The steps `connectToInterface` can end after with no slot connected. -/
inductive Connects (interfaceName : String) (mode : OpenMode) (env : ConnectEnv) (s : Socket) :
    Bool × Socket → Prop
  | refused (t : Socket) : t.optionView = s.optionView →
      Connects interfaceName mode env s (false, t)
  | unopened (events : List Event) (t : Socket) : s.state = .unconnectedState →
      (∀ e ∈ events, ∃ d, e = .opened d) →
      t.optionView = { s.optionView.log events with descriptor := -1 } →
      Connects interfaceName mode env s (false, t)
  | unset (d : Nat) (w u t : Socket) : s.state = .unconnectedState → mode.supported = true →
      env.Opens interfaceName d →
      w.optionView = { s.optionView.log [.opened d] with state := .connectingState, descriptor := d } →
      w.replayOptions Slot.idle env.setsockopt (connectOptions env) 0 = (false, u) →
      t.optionView = { u.optionView with state := .unconnectedState, descriptor := -1 } →
      Connects interfaceName mode env s (false, t)
  | unbound (d : Nat) (w u t : Socket) (e : Errno) : s.state = .unconnectedState → mode.supported = true →
      env.Opens interfaceName d →
      w.optionView = { s.optionView.log [.opened d] with state := .connectingState, descriptor := d } →
      w.replayOptions Slot.idle env.setsockopt (connectOptions env) 0 = (true, u) →
      t.optionView = { u.optionView.log [.bind d s.protocol.bindIds (some e)] with
        state := .unconnectedState, descriptor := -1 } →
      Connects interfaceName mode env s (false, t)
  | connected (d : Nat) (w u t : Socket) : s.state = .unconnectedState → mode.supported = true →
      env.Opens interfaceName d →
      w.optionView = { s.optionView.log [.opened d] with state := .connectingState, descriptor := d } →
      w.replayOptions Slot.idle env.setsockopt (connectOptions env) 0 = (true, u) →
      t.optionView = { u.optionView.log [.bind d s.protocol.bindIds none] with state := .connectedState } →
      t.trace = u.trace ++ [.bind d s.protocol.bindIds none, .signal (.stateChanged .connectedState)] →
      Connects interfaceName mode env s (true, t)

/-- The end of a connect that comes through. -/
theorem entersConnected {s : Socket} (new : s.state ≠ .connectedState) (readable : Bool) :
    let t := (if readable then s.setReadNotificationEnabled true else s).setSocketState Slot.idle .connectedState
    t.optionView = { s.optionView with state := .connectedState } ∧
      t.trace = s.trace ++ [.signal (.stateChanged .connectedState)] := by
  intro t
  have view : t.optionView = { s.optionView with state := .connectedState } := by
    rw [optionView_setSocketState]
    split
    next => rw [optionView_setRead]
    next => rfl
  have enters : ∀ made : Option Notifier × List (Nat × Int),
      ({ s with readNotifier := made.1, watched := made.2 } : Socket).setSocketState Slot.idle .connectedState =
        ({ s with readNotifier := made.1, watched := made.2, state := .connectedState } : Socket).log
          (.signal (.stateChanged .connectedState)) := fun made => if_pos new
  refine ⟨view, ?_⟩
  cases readable with
  | true =>
    obtain ⟨made, eq⟩ := s.setRead_eq true
    exact (congrArg (fun u => (setSocketState Slot.idle .connectedState u).trace) eq).trans
      (congrArg Socket.trace (enters made))
  | false => exact congrArg Socket.trace (enters (s.readNotifier, s.watched))

theorem connectToInterface_connects (interfaceName : String) (mode : OpenMode) (env : ConnectEnv)
    (s : Socket) :
    Connects interfaceName mode env s (s.connectToInterface Slot.idle interfaceName mode env) := by
  unfold connectToInterface
  split
  next => exact .refused _ (optionView_setError _ _)
  next unconnected =>
    have unconnected : s.state = .unconnectedState := by simpa using unconnected
    split
    next => exact .refused _ (optionView_setError _ _)
    next supported =>
      have supported : mode.supported = true := by simpa using supported
      dsimp only
      generalize hw : ({ s with
        interfaceName := interfaceName, state := .unconnectedState, buffer := [], writeBuffer := [],
        openMode := mode } : Socket).setSocketState Slot.idle .connectingState = v
      have view : v.optionView = { s.optionView with state := .connectingState } := by
        rw [← hw, optionView_setSocketState]
        rfl
      have opens := openDescriptor_opens interfaceName env v
      generalize v.openDescriptor Slot.idle interfaceName env = r at opens
      have ids : v.protocol = s.protocol := congrArg OptionView.protocol view
      have connecting : v.state = .connectingState := congrArg OptionView.state view
      have w : ∀ d : Nat, (v.opened d).optionView =
          { s.optionView.log [.opened d] with state := .connectingState, descriptor := d } := by
        intro d
        rw [optionView_opened, view]
        rfl
      have replaying : ∀ {d : Nat} {b : Bool} {u : Socket},
          (v.opened d).replayOptions Slot.idle env.setsockopt (connectOptions env) 0 = (b, u) →
            u.state = .connectingState := by
        intro d b u replay
        have same := (replayOptions_frame env.setsockopt (connectOptions env) 0 (v.opened d)).1
        rw [replay] at same
        exact same.trans connecting
      cases opens with
      | unopened events t opened tview =>
        have state : t.state = .connectingState := (congrArg OptionView.state tview).trans connecting
        refine .unopened events _ unconnected opened ?_
        rw [optionView_close (by rw [state]; decide), tview, view]
        simp [OptionView.log, optionView, unconnected]
      | unset d t socket replay =>
        have state : t.state = .connectingState := replaying replay
        exact .unset d _ t _ unconnected supported socket (w d) replay (optionView_close (by rw [state]; decide) _)
      | unbound d u t e socket replay tview =>
        have state : t.state = .connectingState := (congrArg OptionView.state tview).trans (replaying replay)
        rw [ids] at tview
        refine .unbound d _ u _ e unconnected supported socket (w d) replay ?_
        rw [optionView_close (by rw [state]; decide), tview]
      | bound d u socket replay =>
        have state : u.state = .connectingState := replaying replay
        have bound := optionView_log_on (e := .bind d v.protocol.bindIds none) rfl u
        rw [ids] at bound ⊢
        have other : (u.log (.bind d s.protocol.bindIds none)).state ≠ .connectedState := by
          show u.state ≠ .connectedState
          rw [state]
          decide
        have entered := entersConnected other mode.readOnly
        refine .connected d _ u _ unconnected supported socket (w d) replay ?_ ?_
        · rw [entered.1, bound]
        · exact entered.2.trans (List.append_assoc _ _ _)

end Socket

end CanSocket
