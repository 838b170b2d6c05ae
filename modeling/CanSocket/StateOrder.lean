import CanSocket.ChangeSignals

namespace CanSocket

open Chronicle

/-- The order in which a connection goes through the states of its socket. -/
inductive StateStep : SocketState → SocketState → Prop
  | connecting : StateStep .unconnectedState .connectingState
  | connected : StateStep .connectingState .connectedState
  | failed : StateStep .connectingState .closingState
  | closing : StateStep .connectedState .closingState
  | unconnected : StateStep .closingState .unconnectedState

def SocketState.Settled (socketState : SocketState) : Prop :=
  socketState = .unconnectedState ∨ socketState = .connectedState

instance (socketState : SocketState) : Decidable socketState.Settled :=
  inferInstanceAs (Decidable (_ ∨ _))

def PublicCall.OpensOrCloses : PublicCall → Bool
  | .plain (.connectToInterface ..) => true
  | .plain (.close _) => true
  | .disconnectFromInterface _ => true
  | .connectToInterfaceWithIds .. => true
  | _ => false

/-- A client that opens and closes the connection only when the socket is not just about to do so. -/
def Socket.execOrderly (slot : Slot) (call : PublicCall) (s : Socket) : Socket :=
  if call.OpensOrCloses ∧ ¬s.state.Settled then s else s.execPublic slot call

def PublicScript.orderly (script : PublicScript) (s : Socket) : Socket :=
  script.run (fun slot call s => s.execOrderly slot call) Socket.now s

/-- Between the two moments the states were gone through in their order. -/
def WalksStates : Socket → Socket → Prop :=
  Extends Socket.trace fun s events t => Walk StateStep s.state (events.filterMap Event.toldState) t.state

/-- With what each part of the code can rely on: none but the code that left a settled state comes back to one. -/
structure KeepsOrder (s t : Socket) : Prop where
  walks : WalksStates s t
  settled : s.state.Settled → t.state.Settled
  between : ¬s.state.Settled → t.state = s.state

variable {slot : Slot} {s t u : Socket}

theorem WalksStates.trans (first : WalksStates s t) (second : WalksStates t u) : WalksStates s u := by
  refine Extends.trans (fun {_ _ _ before after} one two => ?_) first second
  rw [List.filterMap_append]
  exact one.append two

theorem KeepsOrder.trans (first : KeepsOrder s t) (second : KeepsOrder t u) : KeepsOrder s u where
  walks := first.walks.trans second.walks
  settled here := second.settled (first.settled here)
  between between := by
    have same := first.between between
    rw [second.between (same ▸ between), same]

/-- What neither changes the state nor tells of one. -/
theorem KeepsOrder.still {events : List Event} (trace : t.trace = s.trace ++ events) (state : t.state = s.state)
    (untold : events.filterMap Event.toldState = []) : KeepsOrder s t := by
  refine ⟨⟨events, trace, ?_⟩, fun settled => state ▸ settled, fun _ => state⟩
  dsimp only
  rw [untold, state]
  exact .stay _

theorem KeepsOrder.move (h : Move s t) : KeepsOrder s t := by
  cases h with
  | silent same =>
    have trace : t.trace = s.trace := congrArg PublicView.trace same
    exact .still (by rw [trace, List.append_nil]) (congrArg PublicView.state same) rfl
  | passed e passing => exact .still rfl rfl (by cases e <;> first | rfl | cases passing)
  | queued data _ => exact .still rfl rfl rfl
  | failed env _ _ => exact .still rfl rfl (by simp [Event.toldState])
  | sent env n _ _ _ _ =>
    refine .still (List.append_assoc ..) rfl ?_
    rw [List.filterMap_append]
    simp [Event.toldState]
  | filled answers bytesToRead => exact .still rfl rfl (by simp [Event.toldState])
  | errored info => exact .still rfl rfl rfl
  | stored option sig differs changed => exact .still rfl rfl (by cases option <;> cases changed <;> rfl)
  | released option => exact .still (List.append_nil _).symm rfl rfl
  | detached => exact .still (List.append_nil _).symm rfl rfl

theorem keepsOrder : MovesKeep KeepsOrder := by
  refine .of_unflagged KeepsOrder.trans KeepsOrder.move ?_ ?_ ?_
  · intro s t same
    obtain ⟨state, _, _, _, trace⟩ : t.state = s.state ∧ t.error = s.error ∧ t.protocol = s.protocol ∧
        t.writeBuffer = s.writeBuffer ∧ t.trace = s.trace := by
      simpa using same
    exact .still (by rw [trace, List.append_nil]) state rfl
  · exact fun s => .still rfl rfl rfl
  · exact fun n s => .still rfl rfl rfl

/-- A state is entered and its slots run; they leave it only where it is settled. -/
theorem enter_walks (slots : ∀ sig s, KeepsOrder s (slot sig s)) {state : SocketState} (step : StateStep s.state state) :
    WalksStates s (s.setSocketState slot state) ∧
      (state.Settled → (s.setSocketState slot state).state.Settled) ∧
        (¬state.Settled → (s.setSocketState slot state).state = state) := by
  have new : s.state ≠ state := by
    intro same
    rw [same] at step
    cases state <;> cases step
  have told := slots (.stateChanged state) (({ s with state := state }).log (.signal (.stateChanged state)))
  have entered : WalksStates s (({ s with state := state }).log (.signal (.stateChanged state))) :=
    ⟨[.signal (.stateChanged state)], rfl, .single step⟩
  unfold Socket.setSocketState
  rw [if_pos new]
  exact ⟨entered.trans told.walks, told.settled, told.between⟩

/-- A connection that is on, or on its way, is closed in full. -/
theorem close_walks (slots : ∀ sig s, KeepsOrder s (slot sig s)) (answer : Option Errno)
    (step : StateStep s.state .closingState) :
    WalksStates s (s.close slot answer) ∧ (s.close slot answer).state.Settled := by
  have open' : s.state ≠ .unconnectedState := by
    intro unconnected
    rw [unconnected] at step
    cases step
  unfold Socket.close
  rw [if_neg open']
  dsimp only
  have begun : WalksStates s { s with openMode := .notOpen, buffer := [], errorString := .text "" } :=
    ⟨[], (List.append_nil _).symm, .stay _⟩
  obtain ⟨toClosing, -, closing⟩ := enter_walks (s := { s with
    openMode := .notOpen, buffer := [], errorString := .text "" }) slots step
  generalize Socket.setSocketState slot .closingState _ = t at toClosing closing
  have closed := keepsOrder.closeDescriptor slots answer t
  have still : (t.closeDescriptor slot answer).state = .closingState := by
    have here : t.state = .closingState := closing (by decide)
    rw [closed.between (by rw [here]; decide), here]
  obtain ⟨toUnconnected, unconnected, -⟩ := enter_walks slots (still ▸ StateStep.unconnected)
  exact ⟨begun.trans (toClosing.trans (closed.walks.trans toUnconnected)), unconnected (by decide)⟩

theorem connect_walks (slots : ∀ sig s, KeepsOrder s (slot sig s)) (interfaceName : String) (mode : OpenMode)
    (env : ConnectEnv) (settled : s.state.Settled) :
    WalksStates s (s.connectToInterface slot interfaceName mode env).2 ∧
      (s.connectToInterface slot interfaceName mode env).2.state.Settled := by
  have told : ∀ info, WalksStates s (s.setError slot info) ∧ (s.setError slot info).state.Settled := fun info =>
    have kept := keepsOrder.setError slots info s
    ⟨kept.walks, kept.settled settled⟩
  unfold Socket.connectToInterface
  split
  next => exact told _
  next unconnected =>
    split
    next => exact told _
    next =>
      have fresh : WalksStates s { s with
          interfaceName := interfaceName, state := .unconnectedState, buffer := [], writeBuffer := [],
          openMode := mode } := by
        refine ⟨[], (List.append_nil _).symm, ?_⟩
        dsimp only
        rw [Classical.not_not.mp unconnected]
        exact .stay _
      obtain ⟨toConnecting, -, connecting⟩ := enter_walks (s := { s with
          interfaceName := interfaceName, state := .unconnectedState, buffer := [], writeBuffer := [],
          openMode := mode }) slots .connecting
      dsimp only
      generalize Socket.setSocketState slot .connectingState _ = t at toConnecting connecting
      have here : t.state = .connectingState := connecting (by decide)
      have opened := keepsOrder.openDescriptor slots interfaceName env t
      have sofar := fresh.trans (toConnecting.trans opened.walks)
      have still := (opened.between (by rw [here]; decide)).trans here
      split
      next u eq =>
        rw [eq] at sofar still
        obtain ⟨toUnconnected, settled⟩ := close_walks slots env.close (still ▸ StateStep.failed)
        exact ⟨sofar.trans toUnconnected, settled⟩
      next u eq =>
        rw [eq] at sofar still
        have reading : KeepsOrder u (if mode.readOnly = true then u.setReadNotificationEnabled true else u) := by
          split
          · exact keepsOrder.setRead true u
          · exact keepsOrder.refl u
        dsimp only at still
        generalize (if mode.readOnly = true then u.setReadNotificationEnabled true else u) = v at reading
        have ready : v.state = .connectingState := (reading.between (by rw [still]; decide)).trans still
        obtain ⟨toConnected, connected, -⟩ := enter_walks slots (ready ▸ StateStep.connected)
        exact ⟨sofar.trans (reading.walks.trans toConnected), connected (by decide)⟩

theorem keepsOrder_of_settled (settled : s.state.Settled) (walks : WalksStates s t ∧ t.state.Settled) :
    KeepsOrder s t :=
  ⟨walks.1, fun _ => walks.2, fun between => absurd settled between⟩

theorem close_order (slots : ∀ sig s, KeepsOrder s (slot sig s)) (answer : Option Errno) (settled : s.state.Settled) :
    KeepsOrder s (s.close slot answer) := by
  rcases settled with unconnected | connected
  · rw [Socket.close, if_pos unconnected]
    exact keepsOrder.refl s
  · exact keepsOrder_of_settled (.inr connected) (close_walks slots answer (connected ▸ StateStep.closing))

theorem connectWithIds_order (slots : ∀ sig s, KeepsOrder s (slot sig s)) (interfaceName : String) (txId rxId : UInt32)
    (mode : OpenMode) (env : ConnectEnv) (settled : s.state.Settled) :
    KeepsOrder s (s.connectToInterfaceWithIds slot interfaceName txId rxId mode env).2 := by
  have tx := keepsOrder.setTxId slots txId s
  unfold Socket.connectToInterfaceWithIds
  split
  next t eq => rwa [eq] at tx
  next t eq =>
    rw [eq] at tx
    have rx := tx.trans (keepsOrder.setRxId slots rxId t)
    split
    next u eq => rwa [eq] at rx
    next u eq =>
      rw [eq] at rx
      have there := rx.settled settled
      exact rx.trans (keepsOrder_of_settled there (connect_walks slots interfaceName mode env there))

theorem execOrderly_order (slots : ∀ sig s, KeepsOrder s (slot sig s)) (call : PublicCall) (s : Socket) :
    KeepsOrder s (s.execOrderly slot call) := by
  unfold Socket.execOrderly
  split
  next => exact keepsOrder.refl s
  next orderly =>
    have settled : call.OpensOrCloses = true → s.state.Settled :=
      fun opensOrCloses => Classical.not_not.mp fun between => orderly ⟨opensOrCloses, between⟩
    cases call with
    | plain c =>
      cases c with
      | connectToInterface interfaceName mode env =>
        exact keepsOrder_of_settled (settled rfl) (connect_walks slots interfaceName mode env (settled rfl))
      | close answer => exact close_order slots answer (settled rfl)
      | setSocketOption option answer => exact keepsOrder.setSocketOption slots option answer s
      | _ =>
        unfold Socket.execPublic
        refine (keepsOrder.partsKeep slots).exec ?_ (fun _ _ => trivial) s
        exact trivial
    | clearError => exact keepsOrder.setError slots _ s
    | disconnectFromInterface answer => exact close_order slots answer (settled rfl)
    | setTxId id => exact keepsOrder.setTxId slots id s
    | setRxId id => exact keepsOrder.setRxId slots id s
    | connectToInterfaceWithIds interfaceName txId rxId mode env =>
      exact connectWithIds_order slots interfaceName txId rxId mode env (settled rfl)

/-- Whatever an orderly client calls, in its slots too, a new socket goes through its states in their order and is
found unconnected or connected after every call. -/
theorem states_in_order (script : PublicScript) (protocol : Protocol) :
    (script.orderly (.create protocol)).state.Settled ∧
      Walk StateStep .unconnectedState
        ((script.orderly (.create protocol)).trace.filterMap Event.toldState) (script.orderly (.create protocol)).state := by
  have kept : KeepsOrder (.create protocol) (script.orderly (.create protocol)) :=
    CallRun.Script.run_rel keepsOrder.refl KeepsOrder.trans
      (fun _ slots _ call _ s => execOrderly_order slots call s) script.all_true _
  obtain ⟨events, trace, walk⟩ := kept.walks
  have all : (script.orderly (.create protocol)).trace = events := trace
  rw [all]
  exact ⟨kept.settled (.inl rfl), walk⟩

/-- A client that closes from a slot of the connect itself finds the socket connected all the same. -/
example : (PublicScript.exec
    (.call (.plain (.connectToInterface "can0" .readWrite (.granting 3)))
      (fun _ sig => if sig = .stateChanged .connectingState then .ofList [.plain (.close none)] else .done) .done)
    (.create (.raw {}))).trace.filterMap Event.toldState =
      [.connectingState, .closingState, .unconnectedState, .connectedState] := by
  decide

end CanSocket
