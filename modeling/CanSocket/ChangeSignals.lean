import CanSocket.Chronicle
import CanSocket.Moves

namespace CanSocket

open Chronicle

def Event.toldState : Event → Option SocketState
  | .signal (.stateChanged socketState) => some socketState
  | _ => none

def Event.toldError : Event → Option SocketError
  | .signal (.error socketError) => some socketError
  | _ => none

/-- The options that are declared as properties with a signal, in the order of their declarations. -/
inductive OptionProperty
  | canFilter
  | errorFilterMask
  | loopback
  | receiveOwnMessages
  | flexibleDataRateFrames
  | txId
  | rxId
  | isoTpOptions
  | flowControlOptions
  | txMinSepTime
  | rxMinSepTime
  | linkLayerOptions
deriving DecidableEq, Repr

/-- What the property of an object of either class is read as; it has none of the other class, and an option object
whose cell is released is read as nothing that could be told. -/
def Protocol.read (p : Protocol) (property : OptionProperty) : Option SocketOption :=
  match p, property with
  | .raw o, .canFilter => some (.canFilterOption o.canFilter)
  | .raw o, .errorFilterMask => some (.errorFilterMaskOption o.errorFilterMask)
  | .raw o, .loopback => some (.loopbackOption o.loopback)
  | .raw o, .receiveOwnMessages => some (.receiveOwnMessagesOption o.receiveOwnMessages)
  | .raw o, .flexibleDataRateFrames => some (.flexibleDataRateFramesOption o.flexibleDataRateFrames)
  | .isoTp f, .txId => some (.txIdOption f.txId)
  | .isoTp f, .rxId => some (.rxIdOption f.rxId)
  | .isoTp f, .isoTpOptions => f.isoTpOptions.map fun o => .isoTpOptions ⟨o, false⟩
  | .isoTp f, .flowControlOptions => f.flowControlOptions.map fun o => .flowControlOptions ⟨o, false⟩
  | .isoTp f, .txMinSepTime => some (.txMinSepTimeOption f.txMinSepTime)
  | .isoTp f, .rxMinSepTime => some (.rxMinSepTimeOption f.rxMinSepTime)
  | .isoTp f, .linkLayerOptions => f.linkLayerOptions.map fun o => .linkLayerOptions ⟨o, false⟩
  | _, _ => none

/-- The signal a property is declared with; no code emits that of the flexible data rate. -/
def OptionProperty.notify : OptionProperty → Option Signal
  | .canFilter => some .canFilterChanged
  | .errorFilterMask => some .errorFilterMaskChanged
  | .loopback => some .loopbackChanged
  | .receiveOwnMessages => some .receiveOwnMessagesChanged
  | .flexibleDataRateFrames => none
  | .txId => some .txIdChanged
  | .rxId => some .rxIdChanged
  | .isoTpOptions => some .isoTpOptionsChanged
  | .flowControlOptions => some .flowControlOptionsChanged
  | .txMinSepTime => some .txMinSepTimeChanged
  | .rxMinSepTime => some .rxMinSepTimeChanged
  | .linkLayerOptions => some .linkLayerOptionsChanged

/-- What the signals between two states tell of the properties: every state and error code that was entered, the
state only when it is a new one, and of each option that it is another. -/
structure ChangesAnnounced (s : Socket) (events : List Event) (t : Socket) : Prop where
  state : Walk (· ≠ ·) s.state (events.filterMap Event.toldState) t.state
  error : Walk (fun _ _ => True) s.error (events.filterMap Event.toldError) t.error
  options : ∀ property value, t.protocol.read property = some value → s.protocol.read property ≠ some value →
    ∃ sig, property.notify = some sig ∧ Event.signal sig ∈ events

/-- A stored value is read from the property whose signal the setter emits, and from no other. -/
theorem Protocol.read_assigned {p : Protocol} {option : SocketOption} {property : OptionProperty}
    (changes : (p.assigned option).read property ≠ p.read property) : option.changed = property.notify ∧
      property.notify ≠ none := by
  cases p <;> cases option <;> cases property <;> first | exact absurd rfl changes | exact ⟨rfl, nofun⟩

/-- What a release leaves to be read was there before. -/
theorem Protocol.read_released {p : Protocol} {option value : SocketOption} {property : OptionProperty}
    (told : (p.released option).read property = some value) : p.read property = some value := by
  cases p <;> cases option <;> cases property <;> first | exact told | cases told

namespace ChangesAnnounced

variable {s t u : Socket} {before after events : List Event}

theorem append (first : ChangesAnnounced s before t) (second : ChangesAnnounced t after u) :
    ChangesAnnounced s (before ++ after) u where
  state := by
    rw [List.filterMap_append]
    exact first.state.append second.state
  error := by
    rw [List.filterMap_append]
    exact first.error.append second.error
  options property value told new := by
    by_cases early : t.protocol.read property = some value
    · obtain ⟨sig, notify, mem⟩ := first.options property value early new
      exact ⟨sig, notify, List.mem_append_left after mem⟩
    · obtain ⟨sig, notify, mem⟩ := second.options property value told early
      exact ⟨sig, notify, List.mem_append_right before mem⟩

/-- What changes no property need not be told, whatever else is. -/
theorem unchanged (same : (t.state, t.error, t.protocol) = (s.state, s.error, s.protocol))
    (states : events.filterMap Event.toldState = []) (errors : events.filterMap Event.toldError = []) :
    ChangesAnnounced s events t := by
  obtain ⟨state, error, protocol⟩ : t.state = s.state ∧ t.error = s.error ∧ t.protocol = s.protocol := by
    simpa using same
  refine ⟨?_, ?_, fun property value told new => absurd (protocol ▸ told) new⟩
  · rw [states, state]
    exact .stay _
  · rw [errors, error]
    exact .stay _

theorem move (h : Move s t) : Extends Socket.trace ChangesAnnounced s t := by
  cases h with
  | silent same =>
    have trace : t.trace = s.trace := congrArg PublicView.trace same
    refine ⟨[], by rw [trace, List.append_nil], unchanged ?_ rfl rfl⟩
    exact congrArg (fun v : PublicView => (v.state, v.error, v.protocol)) same
  | passed e passing =>
    refine ⟨[e], rfl, unchanged rfl ?_ ?_⟩
    · cases e <;> first | rfl | cases passing
    · cases e <;> first | rfl | cases passing
  | queued data _ => exact ⟨[.queued data], rfl, unchanged rfl rfl rfl⟩
  | failed env _ _ => exact ⟨_, rfl, unchanged rfl (by simp [Event.toldState]) (by simp [Event.toldError])⟩
  | sent env n _ _ _ _ =>
    refine ⟨_, List.append_assoc .., unchanged rfl ?_ ?_⟩
    · rw [List.filterMap_append]
      simp [Event.toldState]
    · rw [List.filterMap_append]
      simp [Event.toldError]
  | filled answers bytesToRead =>
    exact ⟨_, rfl, unchanged rfl (by simp [Event.toldState]) (by simp [Event.toldError])⟩
  | errored info =>
    exact ⟨[.signal (.error info.errorCode)], rfl, .stay _, .single trivial, fun _ _ told new => absurd told new⟩
  | stored option sig differs changed =>
    refine ⟨[.signal sig], rfl, ?_, ?_, ?_⟩
    · cases option <;> cases changed <;> exact .stay _
    · cases option <;> cases changed <;> exact .stay _
    · intro property value told new
      obtain ⟨same, _⟩ := Protocol.read_assigned (fun same => new (same ▸ told))
      exact ⟨sig, same ▸ changed, List.mem_singleton_self _⟩
  | released option =>
    exact ⟨[], (List.append_nil _).symm, .stay _, .stay _,
      fun _ _ told new => absurd (Protocol.read_released told) new⟩
  | detached => exact ⟨[], (List.append_nil _).symm, unchanged rfl rfl rfl⟩

end ChangesAnnounced

theorem changesAnnounced : StatesKeep (Extends Socket.trace ChangesAnnounced) where
  toMovesKeep := by
    refine .of_unflagged (Extends.trans ChangesAnnounced.append) ChangesAnnounced.move ?_ ?_ ?_
    · intro s t same
      obtain ⟨state, error, protocol, _, trace⟩ : t.state = s.state ∧ t.error = s.error ∧ t.protocol = s.protocol ∧
          t.writeBuffer = s.writeBuffer ∧ t.trace = s.trace := by
        simpa using same
      exact ⟨[], by rw [trace, List.append_nil], .unchanged (by rw [state, error, protocol]) rfl rfl⟩
    · exact fun s => ⟨[.signal .readyRead], rfl, .unchanged rfl rfl rfl⟩
    · exact fun n s => ⟨[.signal (.bytesWritten n)], rfl, .unchanged rfl rfl rfl⟩
  started _ _ _ unconnected :=
    ⟨[.signal (.stateChanged .connectingState)], rfl, .single (by rw [unconnected]; decide), .stay _,
      fun _ _ told new => absurd told new⟩
  entered new _ := ⟨[.signal (.stateChanged _)], rfl, .single new, .stay _, fun _ _ told new => absurd told new⟩

/-- Whatever is called on either class and in answer to its signals: the state and the error code of the object are the
last ones told, no state is told twice in a row, and no option comes to read as another value without its signal. -/
theorem changes_announced (script : PublicScript) (s : Socket) :
    ∃ events, (script.exec s).trace = s.trace ++ events ∧
      (script.exec s).state = (events.filterMap Event.toldState).getLastD s.state ∧
      (script.exec s).error = (events.filterMap Event.toldError).getLastD s.error ∧
      ChangesAnnounced s events (script.exec s) := by
  obtain ⟨events, trace, changes⟩ := changesAnnounced.script script s
  exact ⟨events, trace, changes.state.last.symm, changes.error.last.symm, changes⟩

end CanSocket
