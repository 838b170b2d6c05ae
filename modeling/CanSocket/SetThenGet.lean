import CanSocket.OptionStore

namespace CanSocket

universe u v

inductive CanRawSocketOption
  | canFilterOption
  | errorFilterMaskOption
  | loopbackOption
  | receiveOwnMessagesOption
  | flexibleDataRateFramesOption
deriving DecidableEq, Repr

/-- A type whose values a `QVariant` can hold: `value<T>()`, which gives a default value where the variant does
not convert, and `setValue`. -/
structure MetaType (QVariant : Type u) (T : Type v) where
  value : QVariant → T
  setValue : T → QVariant
  value_setValue : ∀ x, value (setValue x) = x

/-- What the options of a raw socket use of `QVariant`: the types of their values, and `canConvert<T>()` for the
types their setter asks about. -/
structure QVariantTypes (QVariant : Type u) where
  canRawFilterArray : MetaType QVariant (List CanRawFilter)
  canFrameErrors : MetaType QVariant UInt32
  loopback : MetaType QVariant Loopback
  receiveOwnMessages : MetaType QVariant ReceiveOwnMessages
  flexibleDataRateFrames : MetaType QVariant FlexibleDataRateFrames
  canConvertCanRawFilterArray : QVariant → Bool
  canConvertCanFrameErrors : QVariant → Bool
  canConvertInt : QVariant → Bool

namespace QVariantTypes

variable {QVariant : Type u} (qt : QVariantTypes QVariant)

/-- The question each branch of `setSocketOption` begins with. -/
def canConvert (option : CanRawSocketOption) (value : QVariant) : Bool :=
  match option with
  | .canFilterOption => qt.canConvertCanRawFilterArray value
  | .errorFilterMaskOption => qt.canConvertCanFrameErrors value
  | .loopbackOption => qt.canConvertInt value
  | .receiveOwnMessagesOption => qt.canConvertInt value
  | .flexibleDataRateFramesOption => qt.canConvertInt value

/-- The option with the value the variant stands for. -/
def requested (option : CanRawSocketOption) (value : QVariant) : SocketOption :=
  match option with
  | .canFilterOption => .canFilterOption (qt.canRawFilterArray.value value)
  | .errorFilterMaskOption => .errorFilterMaskOption (qt.canFrameErrors.value value)
  | .loopbackOption => .loopbackOption (qt.loopback.value value)
  | .receiveOwnMessagesOption => .receiveOwnMessagesOption (qt.receiveOwnMessages.value value)
  | .flexibleDataRateFramesOption => .flexibleDataRateFramesOption (qt.flexibleDataRateFrames.value value)

end QVariantTypes

namespace Socket

variable {QVariant : Type u}

/-- `CanRawSocketPrivate::setSocketOption` for any variant. -/
def setVariantOption (qt : QVariantTypes QVariant) (slot : Slot) (option : CanRawSocketOption) (value : QVariant)
    (answer : Option Errno) (s : Socket) : Bool × Socket :=
  if qt.canConvert option value then s.setSocketOption slot (qt.requested option value) answer else (false, s)

/-- Between the two states an error was reported through `setError`. -/
def Reports (s t : Socket) : Prop :=
  ∃ events code, t.trace = s.trace ++ events ∧ Event.signal (.error code) ∈ events

end Socket

/-- `CanRawSocketPrivate::socketOption`. -/
def CanRawOptions.socketOption {QVariant : Type u} (qt : QVariantTypes QVariant) (o : CanRawOptions)
    (option : CanRawSocketOption) : QVariant :=
  match option with
  | .canFilterOption => qt.canRawFilterArray.setValue o.canFilter
  | .errorFilterMaskOption => qt.canFrameErrors.setValue o.errorFilterMask
  | .loopbackOption => qt.loopback.setValue o.loopback
  | .receiveOwnMessagesOption => qt.receiveOwnMessages.setValue o.receiveOwnMessages
  | .flexibleDataRateFramesOption => qt.flexibleDataRateFrames.setValue o.flexibleDataRateFrames

/-- Slots that do not themselves set an option of the socket they are connected to. -/
structure Slot.LeavesOptions (slot : Slot) : Prop where
  protocol : ∀ sig s, (slot sig s).protocol = s.protocol
  trace : ∀ sig s, s.trace <+: (slot sig s).trace

/-- An option that is set is read back as it was requested; one that is not leaves all options as they were and an
error reported. -/
structure SetThenGet {QVariant : Type u} (qt : QVariantTypes QVariant) (s : Socket) (o : CanRawOptions)
    (option : CanRawSocketOption) (value : QVariant) (r : Bool × Socket) : Prop where
  accepted : r.1 = true → ∃ o', r.2.protocol = .raw o' ∧
    qt.requested option (o'.socketOption qt option) = qt.requested option value
  rejected : r.1 = false → (∃ o', r.2.protocol = .raw o' ∧
    ∀ other, o'.socketOption qt other = o.socketOption qt other) ∧ s.Reports r.2

/-- The variant converts, and it does not ask for another flexible data rate, nor for the enabled one. -/
def QVariantTypes.TakesValue {QVariant : Type u} (qt : QVariantTypes QVariant) (o : CanRawOptions)
    (option : CanRawSocketOption) (value : QVariant) : Prop :=
  qt.canConvert option value = true ∧ (option = .flexibleDataRateFramesOption →
    qt.flexibleDataRateFrames.value value = o.flexibleDataRateFrames ∧
      qt.flexibleDataRateFrames.value value ≠ .enabledFdFrames)

section

variable {slot : Slot} {s : Socket} {o : CanRawOptions}

theorem emit_shows (quiet : slot.LeavesOptions) (sig : Signal) (s : Socket) :
    (s.emit slot sig).protocol = s.protocol ∧
      ∃ later, (s.emit slot sig).trace = s.trace ++ .signal sig :: later := by
  obtain ⟨later, eq⟩ := quiet.trace sig (s.log (.signal sig))
  refine ⟨quiet.protocol _ _, later, eq.symm.trans ?_⟩
  simp [Socket.log]

/-- An error has been reported, whatever the slots do after that. -/
theorem setSystemError_reports (quiet : slot.LeavesOptions) (e : Errno) (s : Socket) :
    (s.setSystemError slot e).protocol = s.protocol ∧ s.Reports (s.setSystemError slot e) := by
  obtain ⟨kept, later, trace⟩ := emit_shows quiet (.error (getSystemError e).errorCode)
    { s.setErrno (some e) with
      error := (getSystemError e).errorCode, errorString := (getSystemError e).errorString }
  exact ⟨kept, _, (getSystemError e).errorCode, trace, List.mem_cons_self⟩

theorem reports_of_log {e : Event} {t : Socket} (h : (s.log e).Reports t) : s.Reports t := by
  obtain ⟨events, code, trace, mem⟩ := h
  exact ⟨e :: events, code, by simpa [Socket.log] using trace, List.mem_cons_of_mem e mem⟩

/-- A call of the setter ends with the value stored, or with the options kept and an error reported. -/
structure StoresOrReports (p : Protocol) (option : SocketOption) (s : Socket) (r : Bool × Socket) : Prop where
  stored : r.1 = true → r.2.protocol = p.store option
  reported : r.1 = false → r.2.protocol = p ∧ s.Reports r.2

theorem applyOption_reports (quiet : slot.LeavesOptions) {p : Protocol} {option : SocketOption}
    {kernel : KernelOption} {store : Socket → Socket} {changed : Signal} (is : s.protocol = p)
    (answer : Option Errno) (stores : ∀ t : Socket, (store t).protocol = p.store option) :
    StoresOrReports p option s (s.applyOption slot kernel answer (p.differs option) store changed) := by
  unfold Socket.applyOption Socket.setsockopt
  dsimp only
  generalize (if s.descriptor = -1 then some .EBADF else answer) = asked
  cases asked with
  | some e =>
    obtain ⟨kept, reports⟩ := setSystemError_reports quiet e (s.log (.setsockopt s.descriptor kernel (some e)))
    exact ⟨by simp, fun _ => ⟨kept.trans is, reports_of_log reports⟩⟩
  | none =>
    cases differs : p.differs option with
    | true => exact ⟨fun _ => (quiet.protocol _ _).trans (stores _), by simp⟩
    | false => exact ⟨fun _ => is.trans (Protocol.store_of_not_differs differs).symm, by simp⟩

/-- Every option of a raw socket that has a kernel name is set by such a call. -/
theorem setRawOption_reports (quiet : slot.LeavesOptions) (raw : s.protocol = .raw o) {option : SocketOption}
    (asks : (Protocol.raw o).kernelOption option ≠ none) (answer : Option Errno) :
    StoresOrReports (.raw o) option s (s.setRawOption slot o option answer) := by
  cases option with
  | canFilterOption new => exact applyOption_reports quiet raw answer fun _ => rfl
  | errorFilterMaskOption new => exact applyOption_reports quiet raw answer fun _ => rfl
  | loopbackOption new => exact applyOption_reports quiet raw answer fun _ => rfl
  | receiveOwnMessagesOption new => exact applyOption_reports quiet raw answer fun _ => rfl
  | _ => exact absurd rfl asks

end

section

variable {QVariant : Type u} (qt : QVariantTypes QVariant) {s : Socket} {o : CanRawOptions}

/-- A value stored under its option is the one that is read back. -/
theorem stored_read_back {option : CanRawSocketOption} (other : option ≠ .flexibleDataRateFramesOption)
    (value : QVariant) :
    ∃ o', (Protocol.raw o).store (qt.requested option value) = .raw o' ∧
      qt.requested option (o'.socketOption qt option) = qt.requested option value := by
  cases option with
  | flexibleDataRateFramesOption => exact absurd rfl other
  | _ =>
    refine ⟨_, rfl, ?_⟩
    simp only [QVariantTypes.requested, CanRawOptions.socketOption, MetaType.value_setValue]

theorem requested_asks {option : CanRawSocketOption} (other : option ≠ .flexibleDataRateFramesOption)
    (value : QVariant) : (Protocol.raw o).kernelOption (qt.requested option value) ≠ none := by
  cases option with
  | flexibleDataRateFramesOption => exact absurd rfl other
  | _ => simp [QVariantTypes.requested, Protocol.kernelOption]

/-- A call that fails without a sound, as it leaves the socket alone. -/
theorem not_setThenGet_silent {option : CanRawSocketOption} {value : QVariant} :
    ¬SetThenGet qt s o option value (false, s) := by
  intro law
  obtain ⟨_, events, code, trace, mem⟩ := law.rejected rfl
  rw [List.self_eq_append_right.mp trace] at mem
  cases mem

/-- The setter of the flexible data rate neither asks the kernel nor stores: what it takes, it has to have already. -/
theorem flexibleDataRate_setThenGet {slot : Slot} (raw : s.protocol = .raw o) (value : QVariant)
    (answer : Option Errno) :
    SetThenGet qt s o .flexibleDataRateFramesOption value
        (s.setRawOption slot o (qt.requested .flexibleDataRateFramesOption value) answer) ↔
      qt.flexibleDataRateFrames.value value = o.flexibleDataRateFrames ∧
        qt.flexibleDataRateFrames.value value ≠ .enabledFdFrames := by
  unfold Socket.setRawOption QVariantTypes.requested
  dsimp only
  by_cases enabled : qt.flexibleDataRateFrames.value value = .enabledFdFrames
  · rw [if_pos enabled]
    exact iff_of_false (not_setThenGet_silent qt) fun h => h.2 enabled
  · rw [if_neg enabled]
    have kept : qt.requested .flexibleDataRateFramesOption (o.socketOption qt .flexibleDataRateFramesOption) =
        .flexibleDataRateFramesOption o.flexibleDataRateFrames := by
      rw [QVariantTypes.requested, CanRawOptions.socketOption, MetaType.value_setValue]
    constructor
    · intro law
      obtain ⟨o', same, back⟩ := law.accepted rfl
      cases raw.symm.trans same
      exact ⟨(SocketOption.flexibleDataRateFramesOption.inj (kept.symm.trans back)).symm, enabled⟩
    · rintro ⟨same, _⟩
      refine ⟨fun _ => ⟨o, raw, ?_⟩, by simp⟩
      rw [kept, QVariantTypes.requested, same]

/-- The setter of a raw socket keeps the law, for every option and value and whatever the kernel answers, exactly
where the value converts and no change of the flexible data rate is asked for. -/
theorem set_then_get_iff {slot : Slot} (quiet : slot.LeavesOptions) (raw : s.protocol = .raw o)
    (option : CanRawSocketOption) (value : QVariant) (answer : Option Errno) :
    SetThenGet qt s o option value (s.setVariantOption qt slot option value answer) ↔
      qt.TakesValue o option value := by
  unfold Socket.setVariantOption QVariantTypes.TakesValue
  cases converts : qt.canConvert option value with
  | false => exact iff_of_false (not_setThenGet_silent qt) (by simp)
  | true =>
    have setter : s.setSocketOption slot (qt.requested option value) answer =
        s.setRawOption slot o (qt.requested option value) answer := by
      rw [Socket.setSocketOption, raw]
    rw [if_pos rfl, setter]
    by_cases fd : option = .flexibleDataRateFramesOption
    · subst fd
      rw [flexibleDataRate_setThenGet qt raw]
      simp
    · have reports := setRawOption_reports quiet raw (requested_asks qt fd value) answer
      refine iff_of_true ⟨fun ok => ?_, fun failed => ?_⟩ ⟨rfl, fun same => absurd same fd⟩
      · obtain ⟨o', stored, back⟩ := stored_read_back qt fd value (o := o)
        exact ⟨o', (reports.stored ok).trans stored, back⟩
      · obtain ⟨kept, reported⟩ := reports.reported failed
        exact ⟨⟨o, kept, fun _ => rfl⟩, reported⟩

end

/-- The variants an application hands to a raw socket. -/
inductive PlainVariant
  | invalid
  | int (value : Int32)
  | canRawFilterArray (filter : List CanRawFilter)
  | canFrameErrors (mask : UInt32)
  | loopback (loopback : Loopback)
  | receiveOwnMessages (ownMessages : ReceiveOwnMessages)
  | flexibleDataRateFrames (fdFrames : FlexibleDataRateFrames)
deriving DecidableEq, Repr

namespace PlainVariant

def toLoopback : PlainVariant → Loopback
  | .loopback new => new
  | .int value =>
    if h : value ≠ 0 ∧ value ≠ 1 ∧ value ≠ -1 then .other ⟨value, h⟩
    else if value = 0 then .disabledLoopback
    else if value = 1 then .enabledLoopback
    else .undefinedLoopback
  | _ => .disabledLoopback

def toReceiveOwnMessages : PlainVariant → ReceiveOwnMessages
  | .receiveOwnMessages new => new
  | .int value =>
    if h : value ≠ 0 ∧ value ≠ 1 ∧ value ≠ -1 then .other ⟨value, h⟩
    else if value = 0 then .disabledOwnMessages
    else if value = 1 then .enabledOwnMessages
    else .undefinedOwnMessages
  | _ => .disabledOwnMessages

def toFlexibleDataRateFrames : PlainVariant → FlexibleDataRateFrames
  | .flexibleDataRateFrames new => new
  | .int value =>
    if h : value ≠ 0 ∧ value ≠ 1 ∧ value ≠ -1 then .other ⟨value, h⟩
    else if value = 0 then .disabledFdFrames
    else if value = 1 then .enabledFdFrames
    else .undefinedFdFrames
  | _ => .disabledFdFrames

def types : QVariantTypes PlainVariant where
  canRawFilterArray := ⟨fun | .canRawFilterArray filter => filter | _ => [], .canRawFilterArray, fun _ => rfl⟩
  canFrameErrors := ⟨fun | .canFrameErrors mask => mask | _ => 0, .canFrameErrors, fun _ => rfl⟩
  loopback := ⟨toLoopback, .loopback, fun _ => rfl⟩
  receiveOwnMessages := ⟨toReceiveOwnMessages, .receiveOwnMessages, fun _ => rfl⟩
  flexibleDataRateFrames := ⟨toFlexibleDataRateFrames, .flexibleDataRateFrames, fun _ => rfl⟩
  canConvertCanRawFilterArray
    | .canRawFilterArray _ => true
    | _ => false
  canConvertCanFrameErrors
    | .canFrameErrors _ => true
    | _ => false
  canConvertInt
    | .int _ | .loopback _ | .receiveOwnMessages _ | .flexibleDataRateFrames _ => true
    | _ => false

end PlainVariant

theorem set_then_get_iff_int :
    SetThenGet PlainVariant.types (Socket.connected (.raw {}) 3) {} .loopbackOption (.int 5)
        ((Socket.connected (.raw {}) 3).setVariantOption PlainVariant.types Slot.idle .loopbackOption (.int 5) none) ↔
      PlainVariant.types.TakesValue {} .loopbackOption (.int 5) :=
  set_then_get_iff PlainVariant.types ⟨fun _ _ => rfl, fun _ _ => List.prefix_rfl⟩ rfl .loopbackOption (.int 5) none

/-- A variant that does not convert and the enabled flexible data rate are refused in silence; the undefined one is
taken and not stored. -/
theorem set_then_get_fails :
    let s := Socket.connected (.raw {}) 3
    let call := fun option value => s.setVariantOption PlainVariant.types Slot.idle option value none
    call .canFilterOption .invalid = (false, s) ∧
      ¬SetThenGet PlainVariant.types s {} .canFilterOption .invalid (call .canFilterOption .invalid) ∧
      call .flexibleDataRateFramesOption (.flexibleDataRateFrames .enabledFdFrames) = (false, s) ∧
      ¬SetThenGet PlainVariant.types s {} .flexibleDataRateFramesOption (.flexibleDataRateFrames .enabledFdFrames)
        (call .flexibleDataRateFramesOption (.flexibleDataRateFrames .enabledFdFrames)) ∧
      call .flexibleDataRateFramesOption (.flexibleDataRateFrames .undefinedFdFrames) = (true, s) ∧
      ¬SetThenGet PlainVariant.types s {} .flexibleDataRateFramesOption (.flexibleDataRateFrames .undefinedFdFrames)
        (call .flexibleDataRateFramesOption (.flexibleDataRateFrames .undefinedFdFrames)) := by
  intro s call
  have unconverted : call .canFilterOption .invalid = (false, s) := rfl
  have enabled : call .flexibleDataRateFramesOption (.flexibleDataRateFrames .enabledFdFrames) = (false, s) := rfl
  have undefined : call .flexibleDataRateFramesOption (.flexibleDataRateFrames .undefinedFdFrames) = (true, s) := rfl
  refine ⟨unconverted, ?_, enabled, ?_, undefined, ?_⟩
  · rw [unconverted]
    exact not_setThenGet_silent _
  · rw [enabled]
    exact not_setThenGet_silent _
  · rw [undefined]
    intro law
    obtain ⟨o, kept, back⟩ := law.accepted rfl
    cases kept
    exact absurd back (by decide)

end CanSocket
