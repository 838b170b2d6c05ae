import CanSocket.FrameConsistency
import CanSocket.WordMasks

namespace CanSocket

namespace CanFrameData

variable {d : CanFrameData}

@[simp] theorem errFlag_setErrFlag (err : Bool) : (d.setErrFlag err).errFlag = err :=
  WordMask.setFlag_self (by decide) err d.id

@[simp] theorem rtrFlag_setRtrFlag (rtr : Bool) : (d.setRtrFlag rtr).rtrFlag = rtr :=
  WordMask.setFlag_self (by decide) rtr d.id

@[simp] theorem effFlag_setEffFlag (eff : Bool) : (d.setEffFlag eff).effFlag = eff :=
  WordMask.setFlag_self (by decide) eff d.id

/-- What the flag setters do to the bits of the id that are not their own. -/
theorem setErrFlag_and (err : Bool) {mask : UInt32} (apart : canErrFlag &&& mask = 0) :
    (d.setErrFlag err).id &&& mask = d.id &&& mask :=
  WordMask.setFlag_apart apart err d.id

theorem setRtrFlag_and (rtr : Bool) {mask : UInt32} (apart : canRtrFlag &&& mask = 0) :
    (d.setRtrFlag rtr).id &&& mask = d.id &&& mask :=
  WordMask.setFlag_apart apart rtr d.id

theorem setEffFlag_and (eff : Bool) {mask : UInt32} (apart : canEffFlag &&& mask = 0) :
    (d.setEffFlag eff).id &&& mask = d.id &&& mask :=
  WordMask.setFlag_apart apart eff d.id

@[simp] theorem rtrFlag_setErrFlag (err : Bool) : (d.setErrFlag err).rtrFlag = d.rtrFlag := by
  rw [rtrFlag, setErrFlag_and err (by decide), rtrFlag]

@[simp] theorem errFlag_setRtrFlag (rtr : Bool) : (d.setRtrFlag rtr).errFlag = d.errFlag := by
  rw [errFlag, setRtrFlag_and rtr (by decide), errFlag]

/-- The identifier and its format, which no conversion is to change. -/
def SameId (d e : CanFrameData) : Prop := e.canId = d.canId ∧ e.effFlag = d.effFlag

theorem sameId_setErrFlag (err : Bool) : d.SameId (d.setErrFlag err) := by
  refine ⟨setErrFlag_and err (by decide), ?_⟩
  rw [effFlag, setErrFlag_and err (by decide), effFlag]

theorem sameId_setRtrFlag (rtr : Bool) : d.SameId (d.setRtrFlag rtr) := by
  refine ⟨setRtrFlag_and rtr (by decide), ?_⟩
  rw [effFlag, setRtrFlag_and rtr (by decide), effFlag]

/-- A conversion has given the frame these fields and flags and left its identifier. -/
structure Becomes (d e : CanFrameData) (dlen flags res0 res1 : UInt8) (data : List UInt8) (err rtr : Bool) :
    Prop where
  same : d.SameId e
  dlen : e.dlen = dlen
  flags : e.flags = flags
  res0 : e.res0 = res0
  res1 : e.res1 = res1
  data : e.data = data
  err : e.errFlag = err
  rtr : e.rtrFlag = rtr

section

variable {e : CanFrameData} {dlen flags res0 res1 : UInt8} {data : List UInt8} {err rtr : Bool}

theorem becomes_fields (d : CanFrameData) (dlen flags res0 res1 : UInt8) (data : List UInt8) :
    d.Becomes { d with dlen := dlen, flags := flags, res0 := res0, res1 := res1, data := data }
      dlen flags res0 res1 data d.errFlag d.rtrFlag :=
  ⟨⟨rfl, rfl⟩, rfl, rfl, rfl, rfl, rfl, rfl, rfl⟩

theorem Becomes.setErr (h : d.Becomes e dlen flags res0 res1 data err rtr) (want : Bool) :
    d.Becomes (e.setErrFlag want) dlen flags res0 res1 data want rtr := by
  obtain ⟨canId, eff⟩ := sameId_setErrFlag (d := e) want
  exact ⟨⟨canId.trans h.same.1, eff.trans h.same.2⟩, h.dlen, h.flags, h.res0, h.res1, h.data,
    errFlag_setErrFlag want, (rtrFlag_setErrFlag want).trans h.rtr⟩

theorem Becomes.setRtr (h : d.Becomes e dlen flags res0 res1 data err rtr) (want : Bool) :
    d.Becomes (e.setRtrFlag want) dlen flags res0 res1 data err want := by
  obtain ⟨canId, eff⟩ := sameId_setRtrFlag (d := e) want
  exact ⟨⟨canId.trans h.same.1, eff.trans h.same.2⟩, h.dlen, h.flags, h.res0, h.res1, h.data,
    (errFlag_setRtrFlag want).trans h.err, rtrFlag_setRtrFlag want⟩

/-- Setting a flag only where it differs from what is wanted is setting it. -/
theorem Becomes.forceErr (h : d.Becomes e dlen flags res0 res1 data err rtr) {differs want : Bool}
    (needed : differs = (e.errFlag != want)) :
    d.Becomes (if differs then e.setErrFlag want else e) dlen flags res0 res1 data want rtr := by
  cases differs with
  | true => exact h.setErr want
  | false =>
    have already : e.errFlag = want := by simpa using needed.symm
    exact ⟨h.same, h.dlen, h.flags, h.res0, h.res1, h.data, already, h.rtr⟩

theorem Becomes.forceRtr (h : d.Becomes e dlen flags res0 res1 data err rtr) {differs want : Bool}
    (needed : differs = (e.rtrFlag != want)) :
    d.Becomes (if differs then e.setRtrFlag want else e) dlen flags res0 res1 data err want := by
  cases differs with
  | true => exact h.setRtr want
  | false =>
    have already : e.rtrFlag = want := by simpa using needed.symm
    exact ⟨h.same, h.dlen, h.flags, h.res0, h.res1, h.data, h.err, already⟩

/-- The tail of `toDataFrame` and `toFdFrame`: where both flags are set, one of them stays. -/
theorem Becomes.plain (h : d.Becomes e dlen flags res0 res1 data err rtr) :
    d.Becomes (if e.rtrFlag then e.setRtrFlag false else if e.errFlag then e.setErrFlag false else e)
      dlen flags res0 res1 data (rtr && err) false := by
  rw [h.rtr]
  cases rtr with
  | true => exact h.setRtr false
  | false =>
    rw [if_neg Bool.false_ne_true]
    exact h.forceErr (by simp)

end

theorem toDataFrame_becomes (d : CanFrameData) :
    d.Becomes d.toDataFrame (if d.dlen > 8 then 8 else d.dlen) 0 8 16 (resize 8 d.data)
      (d.rtrFlag && d.errFlag) false :=
  (d.becomes_fields _ 0 8 16 _).plain

theorem toFdFrame_becomes (d : CanFrameData) :
    d.Becomes d.toFdFrame (if d.dlen > 64 then 64 else d.dlen) d.flags 64 72 (resize 64 d.data)
      (d.rtrFlag && d.errFlag) false :=
  (d.becomes_fields _ _ 64 72 _).plain

theorem toErrorFrame_becomes (d : CanFrameData) :
    d.Becomes d.toErrorFrame 8 0 8 16 (resize 8 d.data) true false := by
  have h : d.Becomes d.toErrorFrame (if d.dlen ≠ 8 then 8 else d.dlen) 0 8 16 (resize 8 d.data) true false :=
    ((d.becomes_fields _ 0 8 16 _).forceRtr (Bool.bne_false _).symm).forceErr (Bool.bne_true _).symm
  rwa [forced] at h

theorem toRtrFrame_becomes (d : CanFrameData) :
    d.Becomes d.toRtrFrame 0 0 8 16 (List.replicate 8 48) false true := by
  have h : d.Becomes d.toRtrFrame (if d.dlen ≠ 0 then 0 else d.dlen) 0 8 16 (List.replicate 8 48) false true :=
    ((d.becomes_fields _ 0 8 16 _).forceRtr (Bool.bne_true _).symm).forceErr (Bool.bne_false _).symm
  rwa [forced] at h

theorem resize_self {n : Nat} {data : List UInt8} (size : data.length = n) : resize n data = data := by
  rw [resize, List.take_of_length_le (by omega), Nat.sub_eq_zero_of_le (by omega), List.replicate_zero,
    List.append_nil]

/-- `resize` keeps the common places and fills the others with zero. -/
theorem resize_getD {n i : Nat} (data : List UInt8) (inside : i < n) : (resize n data).getD i 0 = data.getD i 0 := by
  simp only [resize, List.getD_eq_getElem?_getD, List.getElem?_append, List.length_take, List.getElem?_take,
    List.getElem?_replicate]
  by_cases old : i < data.length
  · rw [if_pos (by omega), if_pos inside]
  · rw [if_neg (by omega), List.getElem?_eq_none (by omega)]
    split <;> rfl

section

variable {e : CanFrameData} {dlen flags : UInt8} {data : List UInt8}

theorem Becomes.fields_self {res0 res1 : UInt8} {err rtr : Bool}
    (h : d.Becomes e dlen flags res0 res1 data err rtr) :
    { e with dlen := dlen, flags := flags, res0 := res0, res1 := res1, data := data } = e := by
  rw [← h.dlen, ← h.flags, ← h.res0, ← h.res1, ← h.data]

theorem Becomes.toDataFrame_self (h : d.Becomes e dlen 0 8 16 data false false) (room : dlen.toNat ≤ 8)
    (size : data.length = 8) : e.toDataFrame = e := by
  have same : { e with
      dlen := if e.dlen > 8 then 8 else e.dlen, flags := 0, res0 := 8, res1 := 16, data := resize 8 e.data } = e := by
    rw [h.dlen, if_neg (UInt8.not_lt.mpr (UInt8.le_iff_toNat_le.mpr room)), h.data, resize_self size]
    exact h.fields_self
  calc e.toDataFrame = _ := rfl
    _ = (if e.rtrFlag then e.setRtrFlag false else if e.errFlag then e.setErrFlag false else e) :=
      congrArg (fun f : CanFrameData =>
        if f.rtrFlag then f.setRtrFlag false else if f.errFlag then f.setErrFlag false else f) same
    _ = e := by simp [h.rtr, h.err]

theorem Becomes.toFdFrame_self (h : d.Becomes e dlen flags 64 72 data false false) (room : dlen.toNat ≤ 64)
    (size : data.length = 64) : e.toFdFrame = e := by
  have same : { e with
      dlen := if e.dlen > 64 then 64 else e.dlen, res0 := 64, res1 := 72, data := resize 64 e.data } = e := by
    rw [h.dlen, if_neg (UInt8.not_lt.mpr (UInt8.le_iff_toNat_le.mpr room)), h.data, resize_self size]
    refine Eq.trans ?_ h.fields_self
    rw [h.flags]
  calc e.toFdFrame = _ := rfl
    _ = (if e.rtrFlag then e.setRtrFlag false else if e.errFlag then e.setErrFlag false else e) :=
      congrArg (fun f : CanFrameData =>
        if f.rtrFlag then f.setRtrFlag false else if f.errFlag then f.setErrFlag false else f) same
    _ = e := by simp [h.rtr, h.err]

theorem Becomes.toErrorFrame_self (h : d.Becomes e 8 0 8 16 data true false) (size : data.length = 8) :
    e.toErrorFrame = e := by
  have same : { e with
      dlen := if e.dlen ≠ 8 then 8 else e.dlen, flags := 0, res0 := 8, res1 := 16, data := resize 8 e.data } = e := by
    rw [forced, h.data, resize_self size]
    exact h.fields_self
  calc e.toErrorFrame = _ := rfl
    _ = (let f := if e.rtrFlag then e.setRtrFlag false else e
        if !f.errFlag then f.setErrFlag true else f) :=
      congrArg (fun f : CanFrameData =>
        let f := if f.rtrFlag then f.setRtrFlag false else f
        if !f.errFlag then f.setErrFlag true else f) same
    _ = e := by simp [h.rtr, h.err]

theorem Becomes.toRtrFrame_self (h : d.Becomes e 0 0 8 16 (List.replicate 8 48) false true) :
    e.toRtrFrame = e := by
  have same : { e with
      dlen := if e.dlen ≠ 0 then 0 else e.dlen, flags := 0, res0 := 8, res1 := 16,
      data := List.replicate 8 48 } = e := by
    rw [forced]
    exact h.fields_self
  calc e.toRtrFrame = _ := rfl
    _ = (let f := if !e.rtrFlag then e.setRtrFlag true else e
        if f.errFlag then f.setErrFlag false else f) :=
      congrArg (fun f : CanFrameData =>
        let f := if !f.rtrFlag then f.setRtrFlag true else f
        if f.errFlag then f.setErrFlag false else f) same
    _ = e := by simp [h.rtr, h.err]

end

/-- A valid frame is of one type only. -/
theorem kinds_of_isValid (h : d.isValid = true) :
    [d.isDataFrame, d.isFdFrame, d.isErrorFrame, d.isRtrFrame].count true = 1 := by
  have kinds := (d.isValid_iff).mp h
  rcases classic_or_flexible h with ⟨fd, _⟩ | ⟨fd, res0, _⟩
  · cases err : d.errFlag with
    | true =>
      have data : d.isDataFrame = false := by simp [isDataFrame, err]
      have remote : d.isRtrFrame = false := by simp [isRtrFrame, err]
      have error : d.isErrorFrame = true := by simpa [fd, data, remote] using kinds
      simp [fd, data, remote, error]
    | false =>
      have error : d.isErrorFrame = false := by simp [isErrorFrame, err]
      cases rtr : d.rtrFlag with
      | true =>
        have data : d.isDataFrame = false := by simp [isDataFrame, rtr]
        have remote : d.isRtrFrame = true := by simpa [fd, data, error] using kinds
        simp [fd, data, remote, error]
      | false =>
        have remote : d.isRtrFrame = false := by simp [isRtrFrame, rtr]
        have data : d.isDataFrame = true := by simpa [fd, remote, error] using kinds
        simp [fd, data, remote, error]
  · have other : (d.res0 == res0FromCanMtu canMtu) = false := by simp [res0, res0FromCanMtu]
    simp [isDataFrame, isErrorFrame, isRtrFrame, fd, other]

end CanFrameData

/-- `setFrameType` with one of the four types, or the function named after it. -/
inductive Converts : FrameOp → CanFrameType → Prop
  | setFrameType {type : CanFrameType} : type ≠ .unknownFrame → Converts (.setFrameType type) type
  | toDataFrame : Converts .toDataFrame .dataFrame
  | toFdFrame : Converts .toFdFrame .fdFrame
  | toErrorFrame : Converts .toErrorFrame .errorFrame
  | toRtrFrame : Converts .toRtrFrame .rtrFrame

/-- The length of a frame of this type is capped at, where a conversion keeps the payload. -/
def CanFrameType.cap : CanFrameType → Option Nat
  | .dataFrame => some canMaxDlen
  | .fdFrame => some canfdMaxDlen
  | _ => none

/-- What converting `d` to a type comes to when it gives `e`. -/
structure ConvertedTo (op : FrameOp) (type : CanFrameType) (d e : CanFrameData) : Prop where
  reached : e.frameType = type
  single : [e.isDataFrame, e.isFdFrame, e.isErrorFrame, e.isRtrFrame].count true = 1
  id : d.SameId e
  again : op.exec e = some e
  payload : ∀ size, type.cap = some size → e.dlen.toNat = min d.dlen.toNat size ∧ e.data.length = size ∧
    ∀ i < size, e.data.getD i 0 = d.data.getD i 0

theorem Converts.exec {op : FrameOp} {type : CanFrameType} (h : Converts op type) (d : CanFrameData) :
    op.exec d = some (d.setFrameType type) := by
  cases h <;> rfl

theorem Converts.known {op : FrameOp} {type : CanFrameType} (h : Converts op type) : type ≠ .unknownFrame := by
  cases h with
  | setFrameType known => exact known
  | _ => decide

namespace CanFrameData

variable {d e : CanFrameData} {dlen flags : UInt8} {data : List UInt8} {err rtr : Bool}

theorem Becomes.classic (h : d.Becomes e dlen flags 8 16 data err rtr) (size : data.length = 8) : e.Classic :=
  ⟨h.res0, h.res1, by rw [h.data]; exact size⟩

theorem Becomes.flexible (h : d.Becomes e dlen flags 64 72 data err rtr) (size : data.length = 64) : e.Flexible :=
  ⟨h.res0, h.res1, by rw [h.data]; exact size⟩

theorem clipped_toNat (dlen bound : UInt8) :
    (if dlen > bound then bound else dlen).toNat = min dlen.toNat bound.toNat := by
  split
  · next above =>
    have := UInt8.lt_iff_toNat_lt.mp above
    omega
  · next inside =>
    have := UInt8.le_iff_toNat_le.mp (UInt8.not_lt.mp inside)
    omega

theorem toDataFrame_frameType (d : CanFrameData) :
    d.toDataFrame.frameType = .dataFrame ↔ ¬(d.rtrFlag = true ∧ d.errFlag = true) := by
  have h := d.toDataFrame_becomes
  have room : (if d.dlen > 8 then 8 else d.dlen).toNat ≤ canMaxDlen := clipped d.dlen 8
  rw [frameType_classic (h.classic (resize_length 8 _)), h.err, h.rtr, h.dlen]
  generalize (if d.dlen > 8 then 8 else d.dlen) = dlen at room
  cases d.rtrFlag with
  | false => simp [room]
  | true =>
    cases d.errFlag with
    | false => simp [room]
    | true =>
      refine iff_of_false ?_ (by simp)
      simp only [Bool.and_self]
      split <;> decide

theorem toFdFrame_frameType (d : CanFrameData) :
    d.toFdFrame.frameType = .fdFrame ↔ ¬(d.rtrFlag = true ∧ d.errFlag = true) := by
  have h := d.toFdFrame_becomes
  have room : (if d.dlen > 64 then 64 else d.dlen).toNat ≤ canfdMaxDlen := clipped d.dlen 64
  rw [frameType_flexible (h.flexible (resize_length 64 _)), h.err, h.rtr, h.dlen]
  cases d.rtrFlag <;> cases d.errFlag <;> simp [room]

theorem toErrorFrame_frameType (d : CanFrameData) : d.toErrorFrame.frameType = .errorFrame := by
  have h := d.toErrorFrame_becomes
  rw [frameType_classic (h.classic (resize_length 8 _)), h.err, h.rtr, h.dlen]
  decide

theorem toRtrFrame_frameType (d : CanFrameData) : d.toRtrFrame.frameType = .rtrFrame := by
  have h := d.toRtrFrame_becomes
  rw [frameType_classic (h.classic List.length_replicate), h.err, h.rtr, h.dlen]
  decide

end CanFrameData

section

variable {op : FrameOp} {type : CanFrameType}

theorem Converts.convertedTo (converts : Converts op type) {d : CanFrameData}
    (reached : (d.setFrameType type).frameType = type) (same : d.SameId (d.setFrameType type))
    (self : (d.setFrameType type).setFrameType type = d.setFrameType type)
    (payload : ∀ size, type.cap = some size → (d.setFrameType type).dlen.toNat = min d.dlen.toNat size ∧
      (d.setFrameType type).data = resize size d.data) :
    ∃ e, op.exec d = some e ∧ ConvertedTo op type d e := by
  have valid : (d.setFrameType type).isValid = true := by
    simpa [CanFrameData.isValid, reached] using converts.known
  refine ⟨_, converts.exec d, reached, CanFrameData.kinds_of_isValid valid, same, ?_, fun size cap => ?_⟩
  · rw [converts.exec, self]
  · obtain ⟨len, data⟩ := payload size cap
    rw [data]
    exact ⟨len, CanFrameData.resize_length size _, fun i inside => CanFrameData.resize_getD _ inside⟩

/-- A conversion reaches its type and keeps what it is to keep, except where a data or FD frame is
asked for of a frame with the flags of a remote request and of an error both set. -/
theorem conversion_iff (converts : Converts op type) (d : CanFrameData) :
    (∃ e, op.exec d = some e ∧ ConvertedTo op type d e) ↔
      (type = .dataFrame ∨ type = .fdFrame → ¬(d.rtrFlag = true ∧ d.errFlag = true)) := by
  have reaches : (∃ e, op.exec d = some e ∧ ConvertedTo op type d e) → (d.setFrameType type).frameType = type := by
    rintro ⟨e, given, converted⟩
    cases (converts.exec d).symm.trans given
    exact converted.reached
  cases type with
  | dataFrame =>
    have h := d.toDataFrame_becomes
    refine ⟨fun converted _ => d.toDataFrame_frameType.mp (reaches converted), fun single => ?_⟩
    have single := single (Or.inl rfl)
    have err : (d.rtrFlag && d.errFlag) = false := by simpa using single
    rw [err] at h
    refine converts.convertedTo (d.toDataFrame_frameType.mpr single) h.same ?_ ?_
    · exact h.toDataFrame_self (CanFrameData.clipped d.dlen 8) (CanFrameData.resize_length 8 _)
    · rintro size ⟨rfl⟩
      exact ⟨(congrArg UInt8.toNat h.dlen).trans (CanFrameData.clipped_toNat d.dlen 8), h.data⟩
  | fdFrame =>
    have h := d.toFdFrame_becomes
    refine ⟨fun converted _ => d.toFdFrame_frameType.mp (reaches converted), fun single => ?_⟩
    have single := single (Or.inr rfl)
    have err : (d.rtrFlag && d.errFlag) = false := by simpa using single
    rw [err] at h
    refine converts.convertedTo (d.toFdFrame_frameType.mpr single) h.same ?_ ?_
    · exact h.toFdFrame_self (CanFrameData.clipped d.dlen 64) (CanFrameData.resize_length 64 _)
    · rintro size ⟨rfl⟩
      exact ⟨(congrArg UInt8.toNat h.dlen).trans (CanFrameData.clipped_toNat d.dlen 64), h.data⟩
  | errorFrame =>
    have h := d.toErrorFrame_becomes
    refine iff_of_true ?_ (by simp)
    exact converts.convertedTo d.toErrorFrame_frameType h.same
      (h.toErrorFrame_self (CanFrameData.resize_length 8 _)) (fun size none => by cases none)
  | rtrFrame =>
    have h := d.toRtrFrame_becomes
    refine iff_of_true ?_ (by simp)
    exact converts.convertedTo d.toRtrFrame_frameType h.same h.toRtrFrame_self (fun size none => by cases none)
  | unknownFrame => exact absurd rfl converts.known

end

theorem conversion_iff_sample :
    (∃ e, FrameOp.toDataFrame.exec fdSample = some e ∧ ConvertedTo .toDataFrame .dataFrame fdSample e) ↔
      (CanFrameType.dataFrame = .dataFrame ∨ CanFrameType.dataFrame = .fdFrame →
        ¬(fdSample.rtrFlag = true ∧ fdSample.errFlag = true)) :=
  conversion_iff .toDataFrame fdSample

/-- With both flags set by `setId` only the first is taken away, and the frame is of no type. -/
theorem conversion_fails :
    ∃ d, frameAfter (some .dataFrame) [.setId 0x60000123] = some d ∧
      d.toDataFrame.frameType = .unknownFrame ∧ d.toFdFrame.frameType = .unknownFrame ∧
      (¬∃ e, FrameOp.toDataFrame.exec d = some e ∧ ConvertedTo .toDataFrame .dataFrame d e) ∧
      ¬∃ e, (FrameOp.setFrameType .fdFrame).exec d = some e ∧
        ConvertedTo (.setFrameType .fdFrame) .fdFrame d e := by
  refine ⟨_, rfl, by decide, by decide, ?_, ?_⟩
  · rintro ⟨e, ⟨rfl⟩, converted⟩
    exact absurd converted.reached (by decide)
  · rintro ⟨e, ⟨rfl⟩, converted⟩
    exact absurd converted.reached (by decide)

end CanSocket
