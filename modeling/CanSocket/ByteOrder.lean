import Mathlib.Algebra.Group.Nat.Defs

namespace Endian

inductive ByteOrder
  | bigEndian
  | littleEndian
deriving DecidableEq, Repr

/-- The base-256 digits of `n`, least significant first, in exactly `width` bytes. -/
def digits : Nat → Nat → List UInt8
  | 0, _ => []
  | width + 1, n => UInt8.ofNat n :: digits width (n / 256)

def ofDigits : List UInt8 → Nat
  | [] => 0
  | b :: bs => b.toNat + 256 * ofDigits bs

@[simp] theorem digits_length (width n : Nat) : (digits width n).length = width := by
  induction width generalizing n with
  | zero => rfl
  | succ width ih => simp [digits, ih]

theorem ofDigits_digits (width n : Nat) : ofDigits (digits width n) = n % 256 ^ width := by
  induction width generalizing n with
  | zero => simp [digits, ofDigits, Nat.mod_one]
  | succ width ih =>
    have hb : (UInt8.ofNat n).toNat = n % 256 := UInt8.toNat_ofNat'
    rw [digits, ofDigits, ih, hb, Nat.pow_succ', Nat.mod_mul]

theorem ofDigits_lt (bs : List UInt8) : ofDigits bs < 256 ^ bs.length := by
  induction bs with
  | nil => simp [ofDigits]
  | cons b bs ih =>
    have hb : b.toNat < 256 := b.toNat_lt
    simp only [ofDigits, List.length_cons, Nat.pow_succ']
    omega

theorem digits_ofDigits (bs : List UInt8) : digits bs.length (ofDigits bs) = bs := by
  induction bs with
  | nil => rfl
  | cons b bs ih =>
    have hb : b.toNat < 256 := b.toNat_lt
    have hd : (b.toNat + 256 * ofDigits bs) / 256 = ofDigits bs := by omega
    have hm : UInt8.ofNat (b.toNat + 256 * ofDigits bs) = b := by
      apply UInt8.toNat_inj.mp
      rw [UInt8.toNat_ofNat']
      omega
    simp only [ofDigits, List.length_cons, digits, hd, hm, ih]

def ByteOrder.encode (order : ByteOrder) (width n : Nat) : List UInt8 :=
  match order with
  | .bigEndian => (digits width n).reverse
  | .littleEndian => digits width n

def ByteOrder.decode (order : ByteOrder) (bs : List UInt8) : Nat :=
  match order with
  | .bigEndian => ofDigits bs.reverse
  | .littleEndian => ofDigits bs

@[simp] theorem ByteOrder.encode_length (order : ByteOrder) (width n : Nat) :
    (order.encode width n).length = width := by
  cases order <;> simp [encode]

theorem ByteOrder.decode_encode (order : ByteOrder) (width n : Nat) :
    order.decode (order.encode width n) = n % 256 ^ width := by
  cases order <;> simp [encode, decode, ofDigits_digits]

theorem ByteOrder.decode_lt (order : ByteOrder) (bs : List UInt8) :
    order.decode bs < 256 ^ bs.length := by
  cases order with
  | bigEndian => simpa [decode] using ofDigits_lt bs.reverse
  | littleEndian => exact ofDigits_lt bs

theorem ByteOrder.encode_decode (order : ByteOrder) (bs : List UInt8) :
    order.encode bs.length (order.decode bs) = bs := by
  cases order with
  | bigEndian =>
    have h := digits_ofDigits bs.reverse
    rw [List.length_reverse] at h
    simp [encode, decode, h]
  | littleEndian => exact digits_ofDigits bs

theorem ByteOrder.word_decode_encode (order : ByteOrder) (x : UInt32) :
    UInt32.ofNat (order.decode (order.encode 4 x.toNat)) = x := by
  have hx : x.toNat < 256 ^ 4 := x.toNat_lt
  rw [order.decode_encode, Nat.mod_eq_of_lt hx, UInt32.ofNat_toNat]

theorem ByteOrder.word_encode_decode (order : ByteOrder) {bs : List UInt8} (h : bs.length = 4) :
    order.encode 4 (UInt32.ofNat (order.decode bs)).toNat = bs := by
  have hb : order.decode bs < 2 ^ 32 := by simpa [h] using order.decode_lt bs
  rw [UInt32.toNat_ofNat_of_lt' hb, ← h, order.encode_decode]

end Endian
