import CanSocket.FrameConversions
import CanSocket.History

namespace CanSocket

namespace CanFrameData

/-- `d->data[i] = c` with the assertion of `QVector` that the place is inside the vector. -/
def store (d : CanFrameData) (i : Nat) (c : UInt8) : Option CanFrameData :=
  if i < d.data.length then some (d.write i c) else none

/-- `setData` with that assertion. -/
def storeData (d : CanFrameData) (source : Nat → UInt8) (len : Int) : Option CanFrameData :=
  (List.range (d.copyLength len).toNat).foldlM (fun d i => d.store i (source i)) d

end CanFrameData

/-- A setter of a frame object. -/
inductive FrameSetter
  | setCanId (id : UInt32)
  | setFrameFormat (format : CanFrameFormat)
  | setDataLength (bytes : Int)
  | setFdFrameFlags (flags : UInt32)
  | setData (source : Nat → UInt8) (len : Int)
  | write (i : Nat) (c : UInt8)

/-- What the setter returns, `true` where it returns nothing, and the payload it leaves; `none` when it writes
outside the data vector. -/
def FrameSetter.exec (d : CanFrameData) : FrameSetter → Option (Bool × CanFrameData)
  | .setCanId id => some (true, d.setCanId id)
  | .setFrameFormat format => some (true, d.setFrameFormat format)
  | .setDataLength bytes => some (d.setDataLength bytes)
  | .setFdFrameFlags flags => some (d.setFdFrameFlags flags.toUInt8)
  | .setData source len => (d.storeData source len).map (Prod.mk true)
  | .write i c => (d.store i c).map (Prod.mk true)

def afterSetters (d : CanFrameData) (setters : List FrameSetter) : Option CanFrameData :=
  setters.foldlM (fun d setter => (setter.exec d).map Prod.snd) d

/-- The lengths a frame of this type may have. -/
def CanFrameType.AllowsLength (type : CanFrameType) (bytes : Int) : Prop :=
  match type with
  | .dataFrame => 0 ≤ bytes ∧ bytes ≤ 8
  | .fdFrame => 0 ≤ bytes ∧ bytes ≤ 64
  | .errorFrame => bytes = 8
  | .rtrFrame => bytes = 0
  | .unknownFrame => False

instance (bytes : Int) : (type : CanFrameType) → Decidable (type.AllowsLength bytes)
  | .dataFrame => inferInstanceAs (Decidable (0 ≤ bytes ∧ bytes ≤ 8))
  | .fdFrame => inferInstanceAs (Decidable (0 ≤ bytes ∧ bytes ≤ 64))
  | .errorFrame => inferInstanceAs (Decidable (bytes = 8))
  | .rtrFrame => inferInstanceAs (Decidable (bytes = 0))
  | .unknownFrame => inferInstanceAs (Decidable False)

def FrameSetter.Allowed (type : CanFrameType) : FrameSetter → Prop
  | .setDataLength bytes => type.AllowsLength bytes
  | .setFdFrameFlags _ => type = .fdFrame
  | _ => True

/-- The setter has changed its own field to what it was given, and no other. -/
def FrameSetter.SetsOwn (d e : CanFrameData) : FrameSetter → Prop
  | .setCanId id => e = { d with id := e.id } ∧ e.canId = id &&& canEffMask ∧
      e.id &&& ~~~canEffMask = d.id &&& ~~~canEffMask
  | .setFrameFormat format => e = { d with id := e.id } ∧ e.effFlag = decide (format = .extendedFrameFormat) ∧
      e.id &&& ~~~canEffFlag = d.id &&& ~~~canEffFlag
  | .setDataLength bytes => e = { d with dlen := e.dlen } ∧ e.dlen.toNat = bytes
  | .setFdFrameFlags flags => e = { d with flags := flags.toUInt8 }
  | .setData source len =>
    e = { d with data := d.data.mapIdx fun i c => if (i : Int) < d.copyLength len then source i else c }
  | .write i c => e = { d with data := d.data.set i c }

/-- What a setter called on `d` comes to when it returns `ok` and leaves `e`. -/
structure FrameSetter.Sets (setter : FrameSetter) (d : CanFrameData) (ok : Bool) (e : CanFrameData) : Prop where
  type : e.frameType = d.frameType
  size : e.data.length = d.data.length
  succeeds : ok = true ↔ setter.Allowed d.frameType
  refused : ok = false → e = d
  own : ok = true → setter.SetsOwn d e

namespace CanFrameData

variable {d e : CanFrameData}

/-- The type is read off these fields and flags. -/
theorem frameType_congr (dlen : e.dlen = d.dlen) (res0 : e.res0 = d.res0) (res1 : e.res1 = d.res1)
    (size : e.data.length = d.data.length) (err : e.errFlag = d.errFlag) (rtr : e.rtrFlag = d.rtrFlag) :
    e.frameType = d.frameType := by
  have data : e.isDataFrame = d.isDataFrame := by
    rw [isDataFrame, isDataFrame, dlen, res0, res1, size, err, rtr]
  have fd : e.isFdFrame = d.isFdFrame := by
    rw [isFdFrame, isFdFrame, dlen, res0, res1, size, err, rtr]
  have error : e.isErrorFrame = d.isErrorFrame := by
    rw [isErrorFrame, isErrorFrame, dlen, res0, res1, size, err, rtr]
  have remote : e.isRtrFrame = d.isRtrFrame := by
    rw [isRtrFrame, isRtrFrame, dlen, res0, res1, size, err, rtr]
  rw [frameType, frameType, data, fd, error, remote]

/-- Without the two flags a frame is neither a remote request nor an error. -/
theorem plain_of_flags (err : d.errFlag = false) (rtr : d.rtrFlag = false) :
    (d.isRtrFrame || d.isErrorFrame) = false := by
  simp [isRtrFrame, isErrorFrame, err, rtr]

/-- A valid data or FD frame may have any length up to its bound, the other two only the one they have. -/
theorem allowsLength_cases (valid : d.isValid = true) :
    (d.isRtrFrame || d.isErrorFrame) = false ∧ (d.dlen.toNat : Int) ≤ d.maxDataLength ∧
        (∀ bytes, d.frameType.AllowsLength bytes ↔ 0 ≤ bytes ∧ bytes ≤ d.maxDataLength) ∨
      (d.isRtrFrame || d.isErrorFrame) = true ∧
        ∀ bytes, d.frameType.AllowsLength bytes ↔ bytes = d.dlen.toNat := by
  unfold isValid at valid
  unfold frameType at valid ⊢
  unfold maxDataLength
  cases data : d.isDataFrame with
  | true =>
    simp only [isDataFrame, Bool.and_eq_true, decide_eq_true_eq, Bool.not_eq_true'] at data
    exact Or.inl ⟨plain_of_flags data.1.2 data.2, Int.ofNat_le.mpr data.1.1.1.1.1, fun _ => Iff.rfl⟩
  | false =>
    cases fd : d.isFdFrame with
    | true =>
      simp only [isFdFrame, Bool.and_eq_true, decide_eq_true_eq, Bool.not_eq_true'] at fd
      exact Or.inl ⟨plain_of_flags fd.1.2 fd.2, Int.ofNat_le.mpr fd.1.1.1.1.1, fun _ => Iff.rfl⟩
    | false =>
      cases error : d.isErrorFrame with
      | true =>
        simp only [isErrorFrame, Bool.and_eq_true, beq_iff_eq] at error
        refine Or.inr ⟨Bool.or_true _, fun bytes => ?_⟩
        rw [error.1.1.1.1.1]
        exact Iff.rfl
      | false =>
        cases remote : d.isRtrFrame with
        | true =>
          simp only [isRtrFrame, Bool.and_eq_true, beq_iff_eq] at remote
          refine Or.inr ⟨rfl, fun bytes => ?_⟩
          rw [remote.1.1.1.1.1]
          exact Iff.rfl
        | false => simp [data, fd, error, remote] at valid

theorem frameType_setId {id : UInt32} (err : id &&& canErrFlag = d.id &&& canErrFlag)
    (rtr : id &&& canRtrFlag = d.id &&& canRtrFlag) : ({ d with id := id } : CanFrameData).frameType = d.frameType :=
  frameType_congr rfl rfl rfl rfl (by rw [errFlag, errFlag, err]) (by rw [rtrFlag, rtrFlag, rtr])

theorem allowsLength_ite {c : Prop} [Decidable c] {type : CanFrameType} {bytes : Int}
    (allowed : (if c then type else .unknownFrame).AllowsLength bytes) : c ∧ type.AllowsLength bytes := by
  split at allowed
  next held => exact ⟨held, allowed⟩
  next => exact allowed.elim

/-- A length that its type allows keeps a frame of its type. -/
theorem frameType_setLength {dlen : UInt8} (valid : d.isValid = true)
    (allowed : d.frameType.AllowsLength dlen.toNat) :
    ({ d with dlen := dlen } : CanFrameData).frameType = d.frameType := by
  have err : ({ d with dlen := dlen } : CanFrameData).errFlag = d.errFlag := rfl
  have rtr : ({ d with dlen := dlen } : CanFrameData).rtrFlag = d.rtrFlag := rfl
  rcases classic_or_flexible valid with ⟨_, classic⟩ | ⟨_, flexible⟩
  · rw [frameType_classic classic] at allowed ⊢
    rw [frameType_classic (d := { d with dlen := dlen }) classic, err, rtr]
    revert allowed
    cases d.errFlag <;> cases d.rtrFlag <;> intro allowed
    · obtain ⟨held, _, fits⟩ := allowsLength_ite allowed
      exact (if_pos (Int.ofNat_le.mp fits)).trans (if_pos held).symm
    · obtain ⟨held, fits⟩ := allowsLength_ite allowed
      exact (if_pos (Int.ofNat_inj.mp fits)).trans (if_pos held).symm
    · obtain ⟨held, fits⟩ := allowsLength_ite allowed
      exact (if_pos (Int.ofNat_inj.mp fits)).trans (if_pos held).symm
    · exact allowed.elim
  · rw [frameType_flexible flexible] at allowed ⊢
    rw [frameType_flexible (d := { d with dlen := dlen }) flexible, err, rtr]
    revert allowed
    cases d.errFlag <;> cases d.rtrFlag <;> intro allowed
    · obtain ⟨held, _, fits⟩ := allowsLength_ite allowed
      exact (if_pos (Int.ofNat_le.mp fits)).trans (if_pos held).symm
    · exact allowed.elim
    · exact allowed.elim
    · exact allowed.elim

/-- `setDataLength` takes exactly the lengths the type of the frame allows. -/
theorem setDataLength_eq (valid : d.isValid = true) (bytes : Int) :
    d.setDataLength bytes = if d.frameType.AllowsLength bytes then
      (true, { d with dlen := UInt8.ofNat bytes.toNat }) else (false, d) := by
  have invalid : ¬(!d.isValid) = true := by simp [valid]
  have kept : (d.dlen.toNat : Int) = bytes → { d with dlen := UInt8.ofNat bytes.toNat } = d := by
    rintro rfl
    simp
  unfold setDataLength
  rw [if_neg invalid]
  rcases allowsLength_cases valid with ⟨plain, room, allows⟩ | ⟨fixed, allows⟩
  · simp only [allows, plain, Bool.false_eq_true, if_false]
    by_cases same : (d.dlen.toNat : Int) = bytes
    · rw [if_pos same, if_pos (by omega), kept same]
    · rw [if_neg same]
  · simp only [allows, fixed, if_true]
    by_cases same : (d.dlen.toNat : Int) = bytes
    · rw [if_pos same, if_pos same.symm, kept same]
    · rw [if_neg same, if_neg (Ne.symm same)]

/-- The identifier is put under its mask. -/
theorem setCanId_eq (d : CanFrameData) (id : UInt32) :
    d.setCanId id = { d with id := WordMask.put canEffMask d.id id } := by
  unfold setCanId
  split
  · rfl
  · next same => rw [WordMask.put_same (not_not.mp same)]

/-- The format is the flag the setter leaves; where the frame has it already nothing is stored. -/
theorem setFrameFormat_cases (d : CanFrameData) (format : CanFrameFormat) :
    (d.setFrameFormat format).effFlag = decide (format = .extendedFrameFormat) ∧
      (d.setFrameFormat format = d ∨ ∃ eff, d.setFrameFormat format = d.setEffFlag eff) := by
  unfold setFrameFormat
  cases format with
  | standardFrameFormat =>
    cases eff : d.effFlag with
    | true => exact ⟨effFlag_setEffFlag false, Or.inr ⟨false, rfl⟩⟩
    | false => exact ⟨eff, Or.inl rfl⟩
  | extendedFrameFormat =>
    cases eff : d.effFlag with
    | true => exact ⟨eff, Or.inl rfl⟩
    | false => exact ⟨effFlag_setEffFlag true, Or.inr ⟨true, rfl⟩⟩

/-- The loop of `setData` stores a stretch of its source at the front of the vector. -/
theorem writes_eq (d : CanFrameData) (source : Nat → UInt8) (n : Nat) :
    (List.range n).foldl (fun d i => d.write i (source i)) d =
      { d with data := d.data.mapIdx fun i c => if i < n then source i else c } := by
  induction n with
  | zero =>
    have none : (d.data.mapIdx fun i c => if i < 0 then source i else c) = d.data := by
      apply List.ext_getElem?
      simp
    rw [none]
    rfl
  | succ n ih =>
    have next : (d.data.mapIdx fun i c => if i < n then source i else c).set n (source n) =
        d.data.mapIdx fun i c => if i < n + 1 then source i else c := by
      apply List.ext_getElem?
      intro i
      by_cases here : n = i
      · subst here
        simp [List.getElem?_set_self', Function.const_def]
      · have later : i < n + 1 ↔ i < n := by omega
        simp only [List.getElem?_set_ne here, List.getElem?_mapIdx, later]
    rw [List.range_succ, List.foldl_append, ih, ← next]
    rfl

/-- Stores inside the vector are plain writes. -/
theorem stores_eq (source : Nat → UInt8) (places : List Nat) (d : CanFrameData)
    (inside : ∀ i ∈ places, i < d.data.length) :
    places.foldlM (fun d i => d.store i (source i)) d =
      some (places.foldl (fun d i => d.write i (source i)) d) := by
  induction places generalizing d with
  | nil => rfl
  | cons i places ih =>
    obtain ⟨here, rest⟩ := List.forall_mem_cons.mp inside
    have size : (d.write i (source i)).data.length = d.data.length := List.length_set
    rw [List.foldlM_cons, store, if_pos here, List.foldl_cons]
    exact ih _ fun j mem => by rw [size]; exact rest j mem

/-- Whatever length it is given, `setData` does not leave the vector. -/
theorem storeData_eq (d : CanFrameData) (source : Nat → UInt8) (len : Int) :
    d.storeData source len = some (d.setData source len) := by
  have bound := d.copyLength_le len
  refine stores_eq source _ d fun i mem => ?_
  have := List.mem_range.mp mem
  omega

theorem setData_eq (d : CanFrameData) (source : Nat → UInt8) (len : Int) :
    d.setData source len =
      { d with data := d.data.mapIdx fun i c => if (i : Int) < d.copyLength len then source i else c } := by
  have copied : ∀ i : Nat, i < (d.copyLength len).toNat ↔ (i : Int) < d.copyLength len := fun i => Int.lt_toNat
  rw [setData, writes_eq]
  simp only [copied]

end CanFrameData

theorem CanFrameType.AllowsLength.range {type : CanFrameType} {bytes : Int} (allowed : type.AllowsLength bytes) :
    0 ≤ bytes ∧ bytes ≤ 64 := by
  cases type <;> simp only [CanFrameType.AllowsLength] at allowed <;> omega

namespace FrameSetter

variable {d : CanFrameData}

theorem setCanId_sets (d : CanFrameData) (id : UInt32) : (setCanId id).Sets d true (d.setCanId id) := by
  rw [CanFrameData.setCanId_eq]
  refine ⟨CanFrameData.frameType_setId ?_ ?_, rfl, by simp [Allowed], by simp, fun _ => ⟨rfl, ?_, ?_⟩⟩
  · exact WordMask.put_apart (by decide) d.id id
  · exact WordMask.put_apart (by decide) d.id id
  · exact WordMask.put_self canEffMask d.id id
  · exact WordMask.put_apart (by decide) d.id id

theorem setFrameFormat_sets (d : CanFrameData) (format : CanFrameFormat) :
    (setFrameFormat format).Sets d true (d.setFrameFormat format) := by
  obtain ⟨flag, left⟩ := d.setFrameFormat_cases format
  generalize d.setFrameFormat format = e at flag left
  rcases left with rfl | ⟨eff, rfl⟩
  · exact ⟨rfl, rfl, by simp [Allowed], by simp, fun _ => ⟨rfl, flag, rfl⟩⟩
  · refine ⟨CanFrameData.frameType_setId ?_ ?_, rfl, by simp [Allowed], by simp, fun _ => ⟨rfl, flag, ?_⟩⟩
    · exact CanFrameData.setEffFlag_and eff (by decide)
    · exact CanFrameData.setEffFlag_and eff (by decide)
    · exact CanFrameData.setEffFlag_and eff (by decide)

theorem setDataLength_sets (valid : d.isValid = true) (bytes : Int) :
    (setDataLength bytes).Sets d (d.setDataLength bytes).1 (d.setDataLength bytes).2 := by
  rw [CanFrameData.setDataLength_eq valid]
  split
  · next allowed =>
    have stored : ((UInt8.ofNat bytes.toNat).toNat : Int) = bytes := by
      have range := allowed.range
      simp only [UInt8.toNat_ofNat']
      omega
    refine ⟨?_, rfl, by simpa [Allowed] using allowed, by simp, fun _ => ⟨rfl, stored⟩⟩
    exact CanFrameData.frameType_setLength valid (stored.symm ▸ allowed)
  · next refused =>
    exact ⟨rfl, rfl, by simpa [Allowed] using refused, by simp, by simp⟩

theorem setFdFrameFlags_sets (d : CanFrameData) (flags : UInt32) :
    (setFdFrameFlags flags).Sets d (d.setFdFrameFlags flags.toUInt8).1 (d.setFdFrameFlags flags.toUInt8).2 := by
  unfold CanFrameData.setFdFrameFlags
  split
  · next other => exact ⟨rfl, rfl, by simpa [Allowed] using other, by simp, by simp⟩
  · next fd => exact ⟨rfl, rfl, by simpa [Allowed] using fd, by simp, fun _ => rfl⟩

theorem setData_sets (d : CanFrameData) (source : Nat → UInt8) (len : Int) :
    (setData source len).Sets d true (d.setData source len) := by
  rw [CanFrameData.setData_eq]
  have size := List.length_mapIdx (l := d.data) (f := fun i c => if (i : Int) < d.copyLength len then source i else c)
  exact ⟨CanFrameData.frameType_congr rfl rfl rfl size rfl rfl, size, by simp [Allowed], by simp, fun _ => rfl⟩

theorem write_sets (d : CanFrameData) (i : Nat) (c : UInt8) : (write i c).Sets d true (d.write i c) :=
  ⟨CanFrameData.frameType_congr rfl rfl rfl List.length_set rfl rfl, List.length_set, by simp [Allowed], by simp,
    fun _ => rfl⟩

/-- One call of a setter on a valid frame, the writes among them inside the vector. -/
theorem exec_sets (setter : FrameSetter) (valid : d.isValid = true)
    (inside : ∀ i c, setter = .write i c → i < d.data.length) :
    ∃ ok e, setter.exec d = some (ok, e) ∧ setter.Sets d ok e := by
  cases setter with
  | setCanId id => exact ⟨_, _, rfl, setCanId_sets d id⟩
  | setFrameFormat format => exact ⟨_, _, rfl, setFrameFormat_sets d format⟩
  | setDataLength bytes => exact ⟨_, _, rfl, setDataLength_sets valid bytes⟩
  | setFdFrameFlags flags => exact ⟨_, _, rfl, setFdFrameFlags_sets d flags⟩
  | setData source len =>
    refine ⟨true, d.setData source len, ?_, setData_sets d source len⟩
    rw [exec, CanFrameData.storeData_eq]
    rfl
  | write i c =>
    refine ⟨true, d.write i c, ?_, write_sets d i c⟩
    rw [exec, CanFrameData.store, if_pos (inside i c rfl)]
    rfl

end FrameSetter

theorem afterSetters_concat (d : CanFrameData) (setters : List FrameSetter) (last : FrameSetter) :
    afterSetters d (setters ++ [last]) =
      (afterSetters d setters).bind fun e => (last.exec e).map Prod.snd := by
  simp [afterSetters, List.foldlM_append]

/-- Any setters called one after another leave a valid frame of its type and stay inside its vector, and each of
them does to the frame it finds what it is for. -/
theorem setters_keep_frame {d : CanFrameData} (valid : d.isValid = true) {setters : List FrameSetter}
    (inside : ∀ i c, FrameSetter.write i c ∈ setters → i < d.data.length) :
    (∃ e, afterSetters d setters = some e ∧ e.frameType = d.frameType ∧ e.data.length = d.data.length) ∧
      History.EachAfter (fun done setter => ∃ before ok after, afterSetters d done = some before ∧
        before.frameType = d.frameType ∧ setter.exec before = some (ok, after) ∧
        setter.Sets before ok after) setters := by
  induction setters using List.reverseRecOn with
  | nil => exact ⟨⟨d, rfl, rfl, rfl⟩, History.eachAfter_nil⟩
  | append_singleton setters last ih =>
    obtain ⟨⟨before, reached, type, size⟩, each⟩ := ih fun i c mem => inside i c (List.mem_append_left _ mem)
    have still : before.isValid = true := by rwa [CanFrameData.isValid, type]
    have room : ∀ i c, last = .write i c → i < before.data.length := by
      rintro i c rfl
      rw [size]
      exact inside i c (by simp)
    obtain ⟨ok, after, called, sets⟩ := last.exec_sets still room
    have now : afterSetters d (setters ++ [last]) = some after := by
      rw [afterSetters_concat, reached, Option.bind_some, called]
      rfl
    exact ⟨⟨after, now, sets.type.trans type, sets.size.trans size⟩,
      (History.eachAfter_concat _ _).mpr ⟨each, before, ok, after, reached, type, called, sets⟩⟩

theorem setters_keep_frame_sample :
    (∃ e, afterSetters classicSample [.setDataLength 9, .setData (fun _ => 255) (-7), .setFdFrameFlags 1,
        .setCanId 0xFFFFFFFF, .write 7 1] = some e ∧
      e.frameType = classicSample.frameType ∧ e.data.length = classicSample.data.length) ∧
      History.EachAfter (fun done setter => ∃ before ok after, afterSetters classicSample done = some before ∧
        before.frameType = classicSample.frameType ∧ setter.exec before = some (ok, after) ∧
        setter.Sets before ok after) [.setDataLength 9, .setData (fun _ => 255) (-7), .setFdFrameFlags 1,
        .setCanId 0xFFFFFFFF, .write 7 1] :=
  setters_keep_frame (by decide) (by
    intro i c mem
    simp only [List.mem_cons, List.not_mem_nil, reduceCtorEq, FrameSetter.write.injEq, false_or, or_false] at mem
    rw [mem.1]
    decide)

end CanSocket
