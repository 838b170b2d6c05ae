import Mathlib.Data.List.Basic

namespace WordMask

variable {a b flag mask other : UInt32}

/-- The word `a` with the bits of `b` under the mask. -/
def put (mask a b : UInt32) : UInt32 := (a &&& ~~~mask) ||| (b &&& mask)

/-- The word `a` with the bits of the flag set or cleared. -/
def setFlag (flag : UInt32) (on : Bool) (a : UInt32) : UInt32 := if on then a ||| flag else a &&& ~~~flag

theorem and_not_or_and (a mask : UInt32) : (a &&& ~~~mask) ||| (a &&& mask) = a := by
  apply UInt32.toBitVec_inj.mp
  ext i inside
  simp only [UInt32.toBitVec_or, UInt32.toBitVec_and, UInt32.toBitVec_not, BitVec.getElem_or, BitVec.getElem_and,
    BitVec.getElem_not]
  cases a.toBitVec[i] <;> cases mask.toBitVec[i] <;> rfl

theorem or_and_self (a flag : UInt32) : (a ||| flag) &&& flag = flag := by
  apply UInt32.toBitVec_inj.mp
  ext i inside
  simpa using Or.inr

theorem and_not_and_self (a flag : UInt32) : (a &&& ~~~flag) &&& flag = 0 := by
  rw [UInt32.and_assoc, UInt32.and_comm _ flag, UInt32.and_not_self, UInt32.and_zero]

theorem not_and_apart (apart : mask &&& other = 0) : ~~~mask &&& other = other := by
  calc ~~~mask &&& other
      = (other &&& ~~~mask) ||| (other &&& mask) := by
        rw [UInt32.and_comm other mask, apart, UInt32.or_zero, UInt32.and_comm]
    _ = other := and_not_or_and other mask

/-- Setting or clearing bits does not touch those apart from them. -/
theorem or_and_apart (apart : flag &&& mask = 0) : (a ||| flag) &&& mask = a &&& mask := by
  have bits : flag.toBitVec &&& mask.toBitVec = 0 := congrArg UInt32.toBitVec apart
  apply UInt32.toBitVec_inj.mp
  calc (a.toBitVec ||| flag.toBitVec) &&& mask.toBitVec
      = a.toBitVec &&& mask.toBitVec ||| flag.toBitVec &&& mask.toBitVec := BitVec.and_or_distrib_right
    _ = a.toBitVec &&& mask.toBitVec := by rw [bits]; exact BitVec.or_zero

theorem and_not_and_apart (apart : flag &&& mask = 0) : (a &&& ~~~flag) &&& mask = a &&& mask := by
  rw [UInt32.and_assoc, not_and_apart apart]

theorem setFlag_self (known : flag ≠ 0) (on : Bool) (a : UInt32) : (setFlag flag on a &&& flag != 0) = on := by
  cases on with
  | true =>
    have set : setFlag flag true a &&& flag = flag := or_and_self a flag
    rw [set]
    exact bne_iff_ne.mpr known
  | false =>
    have cleared : setFlag flag false a &&& flag = 0 := and_not_and_self a flag
    rw [cleared]
    rfl

theorem setFlag_apart (apart : flag &&& mask = 0) (on : Bool) (a : UInt32) :
    setFlag flag on a &&& mask = a &&& mask := by
  cases on with
  | true => exact or_and_apart apart
  | false => exact and_not_and_apart apart

/-- What is put under a mask is found there. -/
theorem put_self (mask a b : UInt32) : put mask a b &&& mask = b &&& mask := by
  rw [put, UInt32.or_comm, or_and_apart (and_not_and_self a mask), UInt32.and_assoc, UInt32.and_self]

theorem put_apart (apart : mask &&& other = 0) (a b : UInt32) : put mask a b &&& other = a &&& other := by
  have none : (b &&& mask) &&& other = 0 := by rw [UInt32.and_assoc, apart, UInt32.and_zero]
  rw [put, or_and_apart none, and_not_and_apart apart]

theorem put_same (same : a &&& mask = b &&& mask) : put mask a b = a := by
  rw [put, ← same, and_not_or_and]

/-- A word has a flag of one bit or nothing of it. -/
theorem and_single {i : Nat} (single : flag.toBitVec = BitVec.twoPow 32 i) (a : UInt32) :
    a &&& flag = 0 ∨ a &&& flag = flag := by
  have bit : (a &&& flag).toBitVec = if a.toBitVec.getLsbD i then flag.toBitVec else 0#32 := by
    rw [UInt32.toBitVec_and, single, BitVec.and_twoPow]
  cases set : a.toBitVec.getLsbD i with
  | true => exact Or.inr (UInt32.toBitVec_inj.mp (by simpa [set] using bit))
  | false => exact Or.inl (UInt32.toBitVec_inj.mp (by simpa [set] using bit))

/-- Collecting the flags a word has, one by one, gives its bits under all of them. -/
theorem foldl_flags {flags : List (UInt32 × UInt32)}
    (single : ∀ f ∈ flags, f.1 = f.2 ∧ ∃ i, f.2.toBitVec = BitVec.twoPow 32 i) (a found : UInt32) :
    flags.foldl (fun found (bit, flag) => if a &&& bit ≠ 0 then found ||| flag else found) found =
      found ||| (a &&& flags.foldr (fun f all => f.2 ||| all) 0) := by
  induction flags generalizing found with
  | nil => simp
  | cons f flags ih =>
    obtain ⟨same, i, one⟩ := single f (by simp)
    have spread : a &&& (f.2 ||| flags.foldr (fun f all => f.2 ||| all) 0) =
        (a &&& f.2) ||| (a &&& flags.foldr (fun f all => f.2 ||| all) 0) :=
      UInt32.toBitVec_inj.mp BitVec.and_or_distrib_left
    rw [List.foldl_cons, ih (fun g mem => single g (by simp [mem])), List.foldr_cons, spread, ← UInt32.or_assoc]
    rcases and_single one a with none | all
    · simp [same, none]
    · by_cases zero : f.2 = 0 <;> simp [same, all, zero]

end WordMask
