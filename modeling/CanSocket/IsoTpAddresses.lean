import CanSocket.OptionsInForce

namespace CanSocket

/-- The addresses given to the last bind of a descriptor that succeeded since it was given out. -/
def boundIdsAfter (descriptor : Int) (ids : Option (UInt32 × UInt32)) : Event → Option (UInt32 × UInt32)
  | .opened d => if (d : Int) = descriptor then none else ids
  | .bind d new none => if d = descriptor then new else ids
  | _ => ids

def boundIds (descriptor : Int) (trace : List Event) : Option (UInt32 × UInt32) :=
  trace.foldl (boundIdsAfter descriptor) none

namespace Socket

def setTxId (slot : Slot) (id : UInt32) (s : Socket) : Bool × Socket :=
  if s.state ≠ .unconnectedState then
    (false, s.setError slot
      ⟨.unsupportedSocketOperationError, .text "Cannot set Tx ID in state other than unconnected"⟩)
  else (true, (s.setSocketOption slot (.txIdOption id) none).2)

def setRxId (slot : Slot) (id : UInt32) (s : Socket) : Bool × Socket :=
  if s.state ≠ .unconnectedState then
    (false, s.setError slot
      ⟨.unsupportedSocketOperationError, .text "Cannot set Rx ID in state other than unconnected"⟩)
  else (true, (s.setSocketOption slot (.rxIdOption id) none).2)

/-- The `connectToInterface` of `CanIsoTpSocket` that is given the two addresses. -/
def connectToInterfaceWithIds (slot : Slot) (interfaceName : String) (txId rxId : UInt32) (mode : OpenMode)
    (env : ConnectEnv) (s : Socket) : Bool × Socket :=
  match s.setTxId slot txId with
  | (false, s) => (false, s)
  | (true, s) =>
    match s.setRxId slot rxId with
    | (false, s) => (false, s)
    | (true, s) => s.connectToInterface slot interfaceName mode env

end Socket

/-- The calls of an ISO-TP socket its addresses can depend on; the plain ones open or close the
connection or set an option. -/
inductive IsoTpCall
  | plain (c : Call) (on : c.OnOptions)
  | connectToInterfaceWithIds (interfaceName : String) (txId rxId : UInt32) (mode : OpenMode) (env : ConnectEnv)
  | setTxId (id : UInt32)
  | setRxId (id : UInt32)

def IsoTpCall.step (c : IsoTpCall) (s : Socket) : Socket :=
  match c with
  | .plain c _ => s.step c
  | .connectToInterfaceWithIds interfaceName txId rxId mode env =>
    (s.connectToInterfaceWithIds Slot.idle interfaceName txId rxId mode env).2
  | .setTxId id => (s.setTxId Slot.idle id).2
  | .setRxId id => (s.setRxId Slot.idle id).2

/-- No address is set anew as a socket option once the socket is not unconnected. -/
def IsoTpCall.KeepsIds (c : IsoTpCall) (s : Socket) : Prop :=
  match c, s.protocol with
  | .plain (.setSocketOption (.txIdOption id) _) _, .isoTp f => s.state ≠ .unconnectedState → id = f.txId
  | .plain (.setSocketOption (.rxIdOption id) _) _, .isoTp f => s.state ≠ .unconnectedState → id = f.rxId
  | _, _ => True

theorem boundIds_filter (descriptor : Int) (trace : List Event) :
    boundIds descriptor (trace.filter Event.onOptions) = boundIds descriptor trace := by
  have silent : (fun ids e => if e.onOptions = true then boundIdsAfter descriptor ids e else ids) =
      boundIdsAfter descriptor := by
    funext ids e
    cases e <;> first | rfl | (split <;> rfl)
  rw [boundIds, List.foldl_filter, silent]
  rfl

/-- What holds between the calls of a run that leaves bound addresses alone. -/
structure IdsBound (s : Socket) : Prop where
  link : s.Linked
  isoTp : ∃ f, s.protocol = .isoTp f
  bound : s.state = .connectedState → boundIds s.descriptor s.trace = s.protocol.bindIds

namespace Socket

theorem boundIds_of_log {s t : Socket} {events : List Event}
    (view : t.optionView.trace = s.optionView.trace ++ events) (descriptor : Int) :
    boundIds descriptor t.trace =
      events.foldl (boundIdsAfter descriptor) (boundIds descriptor s.trace) := by
  rw [← boundIds_filter descriptor t.trace, ← boundIds_filter descriptor s.trace]
  exact (congrArg (boundIds descriptor) view).trans List.foldl_append

theorem bindIds_replayed (p : Protocol) : p.replayed.bindIds = p.bindIds := by
  cases p <;> rfl

theorem boundIds_announces (descriptor : Int) (p : Protocol) (option : SocketOption)
    (ids : Option (UInt32 × UInt32)) :
    (p.announces option).foldl (boundIdsAfter descriptor) ids = ids := by
  unfold Protocol.announces
  split
  next => cases option <;> rfl
  next => rfl

/-- No option touches what was bound. -/
theorem SetsOption.boundIds {option : SocketOption} {answer : Option Errno} {s : Socket} {r : Bool × Socket}
    (h : SetsOption option answer s r) (descriptor : Int) :
    boundIds descriptor r.2.trace = boundIds descriptor s.trace := by
  cases h with
  | refused => rfl
  | rejected _ _ t _ _ view => exact boundIds_of_log (congrArg OptionView.trace view) descriptor
  | stored t _ _ view =>
    exact (boundIds_of_log (congrArg OptionView.trace view) descriptor).trans (boundIds_announces ..)
  | granted _ t _ _ _ view =>
    exact (boundIds_of_log (congrArg OptionView.trace view) descriptor).trans (boundIds_announces ..)

theorem idsBound_of_optionView {s t : Socket} (h : IdsBound s) (same : t.optionView = s.optionView) :
    IdsBound t := by
  have state : t.state = s.state := congrArg OptionView.state same
  have descriptor : t.descriptor = s.descriptor := congrArg OptionView.descriptor same
  have protocol : t.protocol = s.protocol := congrArg OptionView.protocol same
  have ids := boundIds_of_log ((congrArg OptionView.trace same).trans (List.append_nil _).symm) s.descriptor
  refine ⟨?_, protocol ▸ h.isoTp, ?_⟩
  · have link := h.link
    unfold Linked at link ⊢
    rwa [state, descriptor]
  · rw [state, descriptor, protocol, ids]
    exact h.bound

theorem connectToInterface_bound {s : Socket} (h : IdsBound s) (interfaceName : String) (mode : OpenMode)
    (env : ConnectEnv) : IdsBound (s.step (.connectToInterface interfaceName mode env)) := by
  refine ⟨step_linked _ h.link, step_keeps store_isoTp trivial h.isoTp, ?_⟩
  have connects := connectToInterface_connects interfaceName mode env s
  unfold step exec
  dsimp only
  generalize s.connectToInterface Slot.idle interfaceName mode env = r at connects
  intro connected
  cases connects with
  | refused t view => exact (idsBound_of_optionView h view).bound connected
  | unopened events t unconnected _ view =>
    have state : t.state = .unconnectedState := (congrArg OptionView.state view).trans unconnected
    exact absurd (state.symm.trans connected) (by decide)
  | unset d w u t _ _ _ _ _ view =>
    have state : t.state = .unconnectedState := congrArg OptionView.state view
    exact absurd (state.symm.trans connected) (by decide)
  | unbound d w u t e _ _ _ _ _ view =>
    have state : t.state = .unconnectedState := congrArg OptionView.state view
    exact absurd (state.symm.trans connected) (by decide)
  | connected d w u t _ _ _ wview replay view trace =>
    obtain ⟨descriptor, protocol, _⟩ := replayed_of_granted wview replay
    have here : t.descriptor = d := (congrArg OptionView.descriptor view).trans descriptor
    have fields : t.protocol = s.protocol.replayed := (congrArg OptionView.protocol view).trans protocol
    dsimp only
    rw [fields, bindIds_replayed, here, boundIds_of_log (congrArg OptionView.trace view)]
    simp [boundIdsAfter]

theorem close_bound {s : Socket} (h : IdsBound s) (answer : Option Errno) : IdsBound (s.step (.close answer)) := by
  refine ⟨step_linked _ h.link, step_keeps store_isoTp trivial h.isoTp, fun connected => ?_⟩
  have down : (s.step (.close answer)).state = .unconnectedState := by
    by_cases unconnected : s.state = .unconnectedState
    · simp [step, exec, close, unconnected]
    · exact congrArg OptionView.state (optionView_close unconnected answer)
  exact absurd (down.symm.trans connected) (by decide)

theorem setSocketOption_ids {option : SocketOption} {answer : Option Errno} {s : Socket}
    (isoTp : ∃ f, s.protocol = .isoTp f) (keeps : (IsoTpCall.plain (.setSocketOption option answer) trivial).KeepsIds s)
    (connection : s.state ≠ .unconnectedState) :
    (s.step (.setSocketOption option answer)).protocol.bindIds = s.protocol.bindIds := by
  obtain ⟨f, isoTp⟩ := isoTp
  have frame : (s.step (.setSocketOption option answer)).protocol = s.protocol ∨
      (s.step (.setSocketOption option answer)).protocol = s.protocol.store option :=
    (setSocketOption_sets option answer s).frame.2.2
  rcases frame with same | stored
  · rw [same]
  · unfold IsoTpCall.KeepsIds at keeps
    rw [isoTp] at keeps stored ⊢
    rw [stored]
    cases option with
    | txIdOption id => rw [keeps connection]; rfl
    | rxIdOption id => rw [keeps connection]; rfl
    | _ => rfl

theorem setSocketOption_bound {option : SocketOption} {answer : Option Errno} {s : Socket} (h : IdsBound s)
    (keeps : (IsoTpCall.plain (.setSocketOption option answer) trivial).KeepsIds s) :
    IdsBound (s.step (.setSocketOption option answer)) := by
  refine ⟨step_linked _ h.link, step_keeps store_isoTp trivial h.isoTp, fun connected => ?_⟩
  have sets := setSocketOption_sets option answer s
  have state : (s.step (.setSocketOption option answer)).state = s.state := sets.frame.1
  have descriptor : (s.step (.setSocketOption option answer)).descriptor = s.descriptor := sets.frame.2.1
  have before : s.state = .connectedState := state.symm.trans connected
  rw [setSocketOption_ids h.isoTp keeps (by rw [before]; decide), descriptor]
  exact (sets.boundIds s.descriptor).trans (h.bound before)

theorem keepsIds_unconnected {s : Socket} (unconnected : ¬s.state ≠ .unconnectedState) (c : IsoTpCall) :
    c.KeepsIds s := by
  unfold IsoTpCall.KeepsIds
  split
  next => exact fun connection => absurd connection unconnected
  next => exact fun connection => absurd connection unconnected
  next => trivial

theorem setTxId_bound {s : Socket} (h : IdsBound s) (id : UInt32) : IdsBound (s.setTxId Slot.idle id).2 := by
  unfold setTxId
  split
  next => exact idsBound_of_optionView h (optionView_setError _ _)
  next unconnected =>
    have set : IdsBound (s.step (.setSocketOption (.txIdOption id) none)) :=
      setSocketOption_bound h (keepsIds_unconnected unconnected _)
    exact set

theorem setRxId_bound {s : Socket} (h : IdsBound s) (id : UInt32) : IdsBound (s.setRxId Slot.idle id).2 := by
  unfold setRxId
  split
  next => exact idsBound_of_optionView h (optionView_setError _ _)
  next unconnected =>
    have set : IdsBound (s.step (.setSocketOption (.rxIdOption id) none)) :=
      setSocketOption_bound h (keepsIds_unconnected unconnected _)
    exact set

theorem step_idsBound (c : IsoTpCall) (s : Socket) (keeps : c.KeepsIds s) (h : IdsBound s) : IdsBound (c.step s) := by
  cases c with
  | plain c on =>
    cases c with
    | connectToInterface interfaceName mode env => exact connectToInterface_bound h interfaceName mode env
    | close answer => exact close_bound h answer
    | setSocketOption option answer => exact setSocketOption_bound h keeps
    | _ => exact on.elim
  | setTxId id => exact setTxId_bound h id
  | setRxId id => exact setRxId_bound h id
  | connectToInterfaceWithIds interfaceName txId rxId mode env =>
    have tx := setTxId_bound h txId
    unfold IsoTpCall.step connectToInterfaceWithIds
    dsimp only
    split
    next t eq => rwa [eq] at tx
    next t eq =>
      rw [eq] at tx
      have rx := setRxId_bound tx rxId
      dsimp only at rx
      split
      next u eq => rwa [eq] at rx
      next u eq =>
        rw [eq] at rx
        exact connectToInterface_bound rx interfaceName mode env

/-- Once connected, a socket keeps its addresses whatever is called. -/
theorem step_ids {c : IsoTpCall} {s : Socket} (keeps : c.KeepsIds s) (h : IdsBound s)
    (connection : s.state ≠ .unconnectedState) : (c.step s).protocol.bindIds = s.protocol.bindIds := by
  cases c with
  | plain c on =>
    cases c with
    | connectToInterface interfaceName mode env =>
      simp [IsoTpCall.step, step, exec, connectToInterface, connection, setError, emit, log, Slot.idle]
    | close answer =>
      exact congrArg (fun v => v.protocol.bindIds) (optionView_close connection answer)
    | setSocketOption option answer => exact setSocketOption_ids h.isoTp keeps connection
    | _ => exact on.elim
  | setTxId id => simp [IsoTpCall.step, setTxId, connection, setError, emit, log, Slot.idle]
  | setRxId id => simp [IsoTpCall.step, setRxId, connection, setError, emit, log, Slot.idle]
  | connectToInterfaceWithIds interfaceName txId rxId mode env =>
    simp [IsoTpCall.step, connectToInterfaceWithIds, setTxId, connection, setError, emit, log, Slot.idle]

end Socket

/-- In every run in which no address is set anew as an option of a connected socket, a socket that
is not unconnected reports the addresses its descriptor is bound to, and keeps them. -/
theorem reported_ids_bound {defaultFrameTxTime : UInt32} {calls : List IsoTpCall}
    (guarded : CallRun.Guarded IsoTpCall.step IsoTpCall.KeepsIds calls
      (.create (.isoTp (.initial defaultFrameTxTime)))) :
    let s := CallRun.run IsoTpCall.step calls (.create (.isoTp (.initial defaultFrameTxTime)))
    s.state ≠ .unconnectedState →
      (∃ f, s.protocol = .isoTp f ∧ boundIds s.descriptor s.trace = some (f.txId, f.rxId)) ∧
        ∀ c : IsoTpCall, c.KeepsIds s → (c.step s).protocol.bindIds = s.protocol.bindIds := by
  intro s connection
  have start : IdsBound (.create (.isoTp (.initial defaultFrameTxTime))) := ⟨Or.inl ⟨rfl, rfl⟩, ⟨_, rfl⟩, nofun⟩
  have reached : IdsBound s := CallRun.run_invariant Socket.step_idsBound guarded start
  have connected : s.state = .connectedState := by
    rcases reached.link with ⟨unconnected, _⟩ | ⟨connected, _⟩
    · exact absurd unconnected connection
    · exact connected
  obtain ⟨f, isoTp⟩ := reached.isoTp
  have bound := reached.bound connected
  rw [isoTp] at bound
  exact ⟨⟨f, isoTp, bound⟩, fun c keeps => Socket.step_ids keeps reached connection⟩

theorem reported_ids_bound_refused :
    let s := CallRun.run IsoTpCall.step [
      .setTxId 7, .connectToInterfaceWithIds "can0" 10 1 .readWrite (.granting 3), .setTxId 8,
      .plain (.setSocketOption (.rxIdOption 1) none) trivial] (.create (.isoTp (.initial 50000)))
    (∃ f, s.protocol = .isoTp f ∧ boundIds s.descriptor s.trace = some (f.txId, f.rxId)) ∧
      ∀ c : IsoTpCall, c.KeepsIds s → (c.step s).protocol.bindIds = s.protocol.bindIds :=
  reported_ids_bound ⟨trivial, trivial, trivial, fun _ => rfl, trivial⟩ (by decide)

/-- The third way to the addresses does not look at the state of the socket. -/
theorem reported_ids_bound_fails :
    let s := CallRun.run IsoTpCall.step [
      .connectToInterfaceWithIds "can0" 10 1 .readWrite (.granting 3),
      .plain (.setSocketOption (.txIdOption 11) none) trivial] (.create (.isoTp (.initial 50000)))
    s.state = .connectedState ∧ s.protocol.bindIds = some (11, 1) ∧
      boundIds s.descriptor s.trace = some (10, 1) := by
  decide

end CanSocket
