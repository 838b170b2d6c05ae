import Mathlib.Data.List.Basic

namespace CanSocket

def canMtu : Nat := 16
def canfdMtu : Nat := 72
def canMaxDlen : Nat := 8
def canfdMaxDlen : Nat := 64

def canEffFlag : UInt32 := 0x80000000
def canRtrFlag : UInt32 := 0x40000000
def canErrFlag : UInt32 := 0x20000000
def canEffMask : UInt32 := 0x1FFFFFFF

def res0FromCanMtu (mtu : Nat) : UInt8 :=
  if mtu = canMtu then 8 else if mtu = canfdMtu then 64 else 0

def res1FromCanMtu (mtu : Nat) : UInt8 :=
  if mtu = canMtu then 16 else if mtu = canfdMtu then 72 else 0

/-- The payload length the two reserved bytes stand for, `-1` when they stand for none. -/
def dataLengthFromResBytes (res0 res1 : UInt8) : Int :=
  if res0 = 8 ∧ res1 = 16 then canMaxDlen
  else if res0 = 64 ∧ res1 = 72 then canfdMaxDlen
  else -1

inductive CanFrameType
  | dataFrame
  | fdFrame
  | errorFrame
  | rtrFrame
  | unknownFrame
deriving DecidableEq, Repr

/-- The shared payload of a `CanFrame`; `CanFrame` itself only adds the sharing. -/
structure CanFrameData where
  id : UInt32 := 0
  dlen : UInt8 := 0
  flags : UInt8 := 0
  res0 : UInt8 := 0
  res1 : UInt8 := 0
  data : List UInt8 := []
deriving DecidableEq, Repr

/-- `QVector<char>::resize`: a prefix is kept, new places are zero. -/
def resize (n : Nat) (data : List UInt8) : List UInt8 :=
  data.take n ++ List.replicate (n - data.length) 0

/-- `QVector<char>(n, c)`; a negative size is outside the constructor's contract. -/
def qVectorFill (n : Int) (c : UInt8) : Option (List UInt8) :=
  if n < 0 then none else some (List.replicate n.toNat c)

namespace CanFrameData

def clear (_ : CanFrameData) : CanFrameData := {}

def setErrFlag (d : CanFrameData) (err : Bool) : CanFrameData :=
  { d with id := if err then d.id ||| canErrFlag else d.id &&& ~~~canErrFlag }

def setRtrFlag (d : CanFrameData) (rtr : Bool) : CanFrameData :=
  { d with id := if rtr then d.id ||| canRtrFlag else d.id &&& ~~~canRtrFlag }

def errFlag (d : CanFrameData) : Bool := d.id &&& canErrFlag != 0

def rtrFlag (d : CanFrameData) : Bool := d.id &&& canRtrFlag != 0

def effFlag (d : CanFrameData) : Bool := d.id &&& canEffFlag != 0

def isDataFrame (d : CanFrameData) : Bool :=
  d.dlen.toNat ≤ canMaxDlen && d.res0 == res0FromCanMtu canMtu && d.res1 == res1FromCanMtu canMtu &&
    d.data.length == canMaxDlen && !d.errFlag && !d.rtrFlag

def isFdFrame (d : CanFrameData) : Bool :=
  d.dlen.toNat ≤ canfdMaxDlen && d.res0 == res0FromCanMtu canfdMtu &&
    d.res1 == res1FromCanMtu canfdMtu && d.data.length == canfdMaxDlen && !d.errFlag && !d.rtrFlag

def isErrorFrame (d : CanFrameData) : Bool :=
  d.dlen.toNat == canMaxDlen && d.res0 == res0FromCanMtu canMtu &&
    d.res1 == res1FromCanMtu canMtu && d.data.length == canMaxDlen && d.errFlag && !d.rtrFlag

def isRtrFrame (d : CanFrameData) : Bool :=
  d.dlen.toNat == 0 && d.res0 == res0FromCanMtu canMtu && d.res1 == res1FromCanMtu canMtu &&
    d.data.length == canMaxDlen && !d.errFlag && d.rtrFlag

def frameType (d : CanFrameData) : CanFrameType :=
  if d.isDataFrame then .dataFrame
  else if d.isFdFrame then .fdFrame
  else if d.isErrorFrame then .errorFrame
  else if d.isRtrFrame then .rtrFrame
  else .unknownFrame

def isValid (d : CanFrameData) : Bool := d.frameType != .unknownFrame

def canId (d : CanFrameData) : UInt32 := d.id &&& canEffMask

def setCanId (d : CanFrameData) (id : UInt32) : CanFrameData :=
  if d.id &&& canEffMask ≠ id &&& canEffMask then
    { d with id := (d.id &&& ~~~canEffMask) ||| (id &&& canEffMask) }
  else d

def toErrorFrame (d : CanFrameData) : CanFrameData :=
  let d := { d with
    dlen := if d.dlen ≠ 8 then 8 else d.dlen
    flags := 0
    res0 := res0FromCanMtu canMtu
    res1 := res1FromCanMtu canMtu
    data := resize canMaxDlen d.data }
  let d := if d.rtrFlag then d.setRtrFlag false else d
  if !d.errFlag then d.setErrFlag true else d

theorem isValid_iff (d : CanFrameData) :
    d.isValid = true ↔ d.isDataFrame ∨ d.isFdFrame ∨ d.isErrorFrame ∨ d.isRtrFrame := by
  unfold isValid frameType
  cases d.isDataFrame <;> cases d.isFdFrame <;> cases d.isErrorFrame <;> cases d.isRtrFrame <;> decide

def Classic (d : CanFrameData) : Prop := d.res0 = 8 ∧ d.res1 = 16 ∧ d.data.length = canMaxDlen

def Flexible (d : CanFrameData) : Prop := d.res0 = 64 ∧ d.res1 = 72 ∧ d.data.length = canfdMaxDlen

theorem classic_of_isDataFrame {d : CanFrameData} (h : d.isDataFrame = true) : d.Classic := by
  simp only [isDataFrame, Bool.and_eq_true, beq_iff_eq] at h
  exact ⟨h.1.1.1.1.2, h.1.1.1.2, h.1.1.2⟩

theorem flexible_of_isFdFrame {d : CanFrameData} (h : d.isFdFrame = true) : d.Flexible := by
  simp only [isFdFrame, Bool.and_eq_true, beq_iff_eq] at h
  exact ⟨h.1.1.1.1.2, h.1.1.1.2, h.1.1.2⟩

theorem classic_of_isErrorFrame {d : CanFrameData} (h : d.isErrorFrame = true) : d.Classic := by
  simp only [isErrorFrame, Bool.and_eq_true, beq_iff_eq] at h
  exact ⟨h.1.1.1.1.2, h.1.1.1.2, h.1.1.2⟩

theorem classic_of_isRtrFrame {d : CanFrameData} (h : d.isRtrFrame = true) : d.Classic := by
  simp only [isRtrFrame, Bool.and_eq_true, beq_iff_eq] at h
  exact ⟨h.1.1.1.1.2, h.1.1.1.2, h.1.1.2⟩

theorem classic_or_flexible {d : CanFrameData} (h : d.isValid = true) :
    d.isFdFrame = false ∧ d.Classic ∨ d.isFdFrame = true ∧ d.Flexible := by
  cases hf : d.isFdFrame with
  | true => exact Or.inr ⟨rfl, flexible_of_isFdFrame hf⟩
  | false =>
    rcases d.isValid_iff.mp h with hd | hd | hd | hd
    · exact Or.inl ⟨rfl, classic_of_isDataFrame hd⟩
    · rw [hf] at hd; cases hd
    · exact Or.inl ⟨rfl, classic_of_isErrorFrame hd⟩
    · exact Or.inl ⟨rfl, classic_of_isRtrFrame hd⟩

theorem frameType_classic {d : CanFrameData} (h : d.Classic) :
    d.frameType = match d.errFlag, d.rtrFlag with
      | false, false => if d.dlen.toNat ≤ canMaxDlen then .dataFrame else .unknownFrame
      | true, false => if d.dlen.toNat = canMaxDlen then .errorFrame else .unknownFrame
      | false, true => if d.dlen.toNat = 0 then .rtrFrame else .unknownFrame
      | true, true => .unknownFrame := by
  obtain ⟨h0, h1, size⟩ := h
  have flexible : d.isFdFrame = false := by
    simp [isFdFrame, h0, res0FromCanMtu, canMtu, canfdMtu]
  have tags : (d.res0 == res0FromCanMtu canMtu) = true ∧ (d.res1 == res1FromCanMtu canMtu) = true ∧
      (d.data.length == canMaxDlen) = true := by
    simp [h0, h1, size, res0FromCanMtu, res1FromCanMtu]
  simp only [frameType, flexible, isDataFrame, isErrorFrame, isRtrFrame, tags]
  cases d.errFlag <;> cases d.rtrFlag <;> simp

theorem frameType_flexible {d : CanFrameData} (h : d.Flexible) :
    d.frameType = match d.errFlag, d.rtrFlag with
      | false, false => if d.dlen.toNat ≤ canfdMaxDlen then .fdFrame else .unknownFrame
      | _, _ => .unknownFrame := by
  obtain ⟨h0, h1, size⟩ := h
  have classic : (d.res0 == res0FromCanMtu canMtu) = false := by
    simp [h0, res0FromCanMtu]
  have tags : (d.res0 == res0FromCanMtu canfdMtu) = true ∧ (d.res1 == res1FromCanMtu canfdMtu) = true ∧
      (d.data.length == canfdMaxDlen) = true := by
    simp [h0, h1, size, res0FromCanMtu, res1FromCanMtu, canMtu, canfdMtu]
  simp only [frameType, isFdFrame, isDataFrame, isErrorFrame, isRtrFrame, tags, classic]
  cases d.errFlag <;> cases d.rtrFlag <;> simp

end CanFrameData

end CanSocket
