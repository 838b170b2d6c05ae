import CanSocket.FrameOperations
import Mathlib.Data.List.Induction

namespace CanSocket

open Endian

namespace CanFrameData

variable {d : CanFrameData}

/-- The reserved bytes and the size of the data vector agree. -/
def Sized (d : CanFrameData) : Prop :=
  d.res0 = 0 ∧ d.res1 = 0 ∧ d.data.length = 0 ∨ d.Classic ∨ d.Flexible

/-- The vector has the size its tags tell and room for the `dlen` bytes. -/
structure Consistent (d : CanFrameData) : Prop where
  sized : d.Sized
  room : d.dlen.toNat ≤ d.data.length

theorem resize_length (n : Nat) (data : List UInt8) : (resize n data).length = n := by
  simp only [resize, List.length_append, List.length_take, List.length_replicate]
  omega

theorem Classic.consistent (h : d.Classic) (room : d.dlen.toNat ≤ 8) : d.Consistent :=
  ⟨Or.inr (Or.inl h), by rw [h.2.2]; exact room⟩

theorem Flexible.consistent (h : d.Flexible) (room : d.dlen.toNat ≤ 64) : d.Consistent :=
  ⟨Or.inr (Or.inr h), by rw [h.2.2]; exact room⟩

/-- The invariant does not look at `id` and `flags`. -/
theorem consistent_congr {e : CanFrameData} (dlen : e.dlen = d.dlen) (res0 : e.res0 = d.res0)
    (res1 : e.res1 = d.res1) (size : e.data.length = d.data.length) : e.Consistent ↔ d.Consistent := by
  constructor <;> rintro ⟨sized, room⟩
  · exact ⟨by simpa [Sized, Classic, Flexible, res0, res1, size] using sized, by rwa [← dlen, ← size]⟩
  · exact ⟨by simpa [Sized, Classic, Flexible, res0, res1, size] using sized, by rwa [dlen, size]⟩

@[simp] theorem consistent_id (id : UInt32) : ({ d with id := id } : CanFrameData).Consistent ↔ d.Consistent :=
  consistent_congr rfl rfl rfl rfl

@[simp] theorem consistent_setErrFlag (err : Bool) : (d.setErrFlag err).Consistent ↔ d.Consistent :=
  consistent_congr rfl rfl rfl rfl

@[simp] theorem consistent_setRtrFlag (rtr : Bool) : (d.setRtrFlag rtr).Consistent ↔ d.Consistent :=
  consistent_congr rfl rfl rfl rfl

@[simp] theorem consistent_setEffFlag (eff : Bool) : (d.setEffFlag eff).Consistent ↔ d.Consistent :=
  consistent_congr rfl rfl rfl rfl

theorem Consistent.setErr (h : d.Consistent) (c err : Bool) : (if c then d.setErrFlag err else d).Consistent := by
  cases c with
  | true => exact (consistent_setErrFlag err).mpr h
  | false => exact h

theorem Consistent.setRtr (h : d.Consistent) (c rtr : Bool) : (if c then d.setRtrFlag rtr else d).Consistent := by
  cases c with
  | true => exact (consistent_setRtrFlag rtr).mpr h
  | false => exact h

/-- `toDataFrame` and `toFdFrame` take away one flag of the two. -/
theorem Consistent.plain (h : d.Consistent) : (if d.rtrFlag then d.setRtrFlag false
    else if d.errFlag then d.setErrFlag false else d).Consistent := by
  split
  · exact (consistent_setRtrFlag false).mpr h
  · exact h.setErr d.errFlag false

theorem Consistent.shownData (h : d.Consistent) : d.shownData = some (d.data.take d.dlen.toNat) := if_pos h.room

theorem clipped (dlen bound : UInt8) : (if dlen > bound then bound else dlen).toNat ≤ bound.toNat := by
  split
  · exact Nat.le_refl _
  · next small => exact UInt8.le_iff_toNat_le.mp (UInt8.not_lt.mp small)

theorem forced (dlen value : UInt8) : (if dlen ≠ value then value else dlen) = value := by
  split
  · rfl
  · next same => exact not_not.mp same

theorem clear_consistent (d : CanFrameData) : d.clear.Consistent := ⟨Or.inl ⟨rfl, rfl, rfl⟩, Nat.le_refl 0⟩

theorem toDataFrame_consistent (d : CanFrameData) : d.toDataFrame.Consistent :=
  (Classic.consistent ⟨rfl, rfl, resize_length 8 d.data⟩ (clipped d.dlen 8)).plain

theorem toFdFrame_consistent (d : CanFrameData) : d.toFdFrame.Consistent :=
  (Flexible.consistent ⟨rfl, rfl, resize_length 64 d.data⟩ (clipped d.dlen 64)).plain

theorem toErrorFrame_consistent (d : CanFrameData) : d.toErrorFrame.Consistent := by
  have full : (if d.dlen ≠ 8 then 8 else d.dlen).toNat ≤ 8 := by
    rw [forced]
    decide
  exact ((Classic.consistent ⟨rfl, rfl, resize_length 8 d.data⟩ full).setRtr _ false).setErr _ true

theorem toRtrFrame_consistent (d : CanFrameData) : d.toRtrFrame.Consistent := by
  have empty : (if d.dlen ≠ 0 then 0 else d.dlen).toNat ≤ 8 := by
    rw [forced]
    decide
  exact ((Classic.consistent ⟨rfl, rfl, List.length_replicate⟩ empty).setRtr _ true).setErr _ false

theorem setFrameType_consistent (d : CanFrameData) (type : CanFrameType) : (d.setFrameType type).Consistent := by
  cases type with
  | dataFrame => exact d.toDataFrame_consistent
  | fdFrame => exact d.toFdFrame_consistent
  | errorFrame => exact d.toErrorFrame_consistent
  | rtrFrame => exact d.toRtrFrame_consistent
  | unknownFrame => exact d.clear_consistent

theorem construct_consistent (start : Option CanFrameType) : (construct start).Consistent := by
  cases start with
  | none => exact clear_consistent {}
  | some type => exact setFrameType_consistent {} type

theorem maxDataLength_le (d : CanFrameData) : d.maxDataLength ≤ d.data.length := by
  unfold maxDataLength
  split
  · next data => exact Int.le_of_eq (by rw [(classic_of_isDataFrame data).2.2])
  · split
    · next fd => exact Int.le_of_eq (by rw [(flexible_of_isFdFrame fd).2.2])
    · split
      · next error => exact Int.le_of_eq (by rw [(classic_of_isErrorFrame error).2.2])
      · split <;> omega

theorem setCanId_consistent (h : d.Consistent) (id : UInt32) : (d.setCanId id).Consistent := by
  unfold setCanId
  split
  · exact (consistent_id _).mpr h
  · exact h

theorem setFrameFormat_consistent (h : d.Consistent) (format : CanFrameFormat) :
    (d.setFrameFormat format).Consistent := by
  unfold setFrameFormat
  split
  · exact (consistent_setEffFlag true).mpr h
  · split
    · exact (consistent_setEffFlag false).mpr h
    · exact h

theorem setDataLength_consistent (h : d.Consistent) (bytes : Int) : (d.setDataLength bytes).2.Consistent := by
  unfold setDataLength
  split
  · exact h
  split
  · exact h
  split
  · exact h
  split
  · next inside =>
    have limit := d.maxDataLength_le
    have small : (UInt8.ofNat bytes.toNat).toNat ≤ bytes.toNat := by
      simpa using Nat.mod_le bytes.toNat 256
    exact ⟨h.sized, by simp only; omega⟩
  · exact h

theorem setFdFrameFlags_consistent (h : d.Consistent) (flags : UInt8) :
    (d.setFdFrameFlags flags).2.Consistent := by
  unfold setFdFrameFlags
  split
  · exact h
  · exact ⟨h.sized, h.room⟩

theorem write_consistent (h : d.Consistent) (i : Nat) (c : UInt8) : (d.write i c).Consistent :=
  (consistent_congr (d := d) (e := d.write i c) rfl rfl rfl List.length_set).mpr h

theorem setData_consistent (h : d.Consistent) (source : Nat → UInt8) (len : Int) :
    (d.setData source len).Consistent := by
  have copied : ∀ (places : List Nat) (e : CanFrameData), e.Consistent →
      (places.foldl (fun d i => d.write i (source i)) e).Consistent := by
    intro places
    induction places with
    | nil => exact fun e he => he
    | cons i places ih => exact fun e he => ih _ (write_consistent he i (source i))
  exact copied _ d h

/-- The copy of `setData` stays inside the vector. -/
theorem copyLength_le (d : CanFrameData) (len : Int) : d.copyLength len ≤ d.data.length := by
  have limit := d.maxDataLength_le
  unfold copyLength
  split <;> omega

end CanFrameData

theorem getUInt8_eq (bytes : List UInt8) : getUInt8 bytes = (bytes.getD 0 0, bytes.drop 1) := by
  cases bytes <;> rfl

theorem getUInt32_rest (order : ByteOrder) (bytes : List UInt8) : (getUInt32 order bytes).2 = bytes.drop 4 := by
  unfold getUInt32
  split
  · rfl
  · next short => rw [List.drop_eq_nil_of_le (by omega)]

theorem getData_length (n : Nat) (bytes : List UInt8) : (getData n bytes).1.length = n := by
  induction n generalizing bytes with
  | zero => rfl
  | succ n ih => simp [getData, ih]

/-- The decoder in terms of the places of the stream; a place past its end reads as zero. -/
theorem getFrame_eq (order : ByteOrder) (target : CanFrameData) (stream : List UInt8) :
    getFrame order target stream =
      (qVectorFill (dataLengthFromResBytes (stream.getD 6 0) (stream.getD 7 0)) 48).map fun vector =>
        (⟨(getUInt32 order stream).1, stream.getD 4 0, stream.getD 5 0, stream.getD 6 0, stream.getD 7 0,
          (getData vector.length (stream.drop 8)).1⟩, (getData vector.length (stream.drop 8)).2) := by
  have known : dataLengthFromResBytes (stream.getD 6 0) (stream.getD 7 0) ≠ 0 := by
    unfold dataLengthFromResBytes
    split
    · decide
    · split <;> decide
  simp only [getFrame, getUInt8_eq, getUInt32_rest, List.drop_drop, List.getD_eq_getElem?_getD, List.getElem?_drop,
    Nat.reduceAdd] at known ⊢
  rw [if_pos known]

/-- The header at the front of a stream has tags the library knows and a length that fits them. -/
def HeaderFits (stream : List UInt8) : Prop :=
  stream.getD 6 0 = 8 ∧ stream.getD 7 0 = 16 ∧ (stream.getD 4 0).toNat ≤ 8 ∨
    stream.getD 6 0 = 64 ∧ stream.getD 7 0 = 72 ∧ (stream.getD 4 0).toNat ≤ 64

instance (stream : List UInt8) : Decidable (HeaderFits stream) := inferInstanceAs (Decidable (_ ∨ _))

theorem HeaderFits.tagged {stream : List UInt8} (h : HeaderFits stream) :
    ∃ size, Tagged (stream.getD 6 0) (stream.getD 7 0) size ∧ (stream.getD 4 0).toNat ≤ size := by
  rcases h with ⟨res0, res1, fits⟩ | ⟨res0, res1, fits⟩
  · exact ⟨8, Or.inl ⟨res0, res1, rfl⟩, fits⟩
  · exact ⟨64, Or.inr ⟨res0, res1, rfl⟩, fits⟩

/-- What a frame holds after it was read from a stream does not matter: the header decides. -/
theorem read_consistent_iff (order : ByteOrder) (stream : List UInt8) (d : CanFrameData) :
    (∃ e, (FrameOp.read order stream).exec d = some e ∧ e.Consistent) ↔ HeaderFits stream := by
  constructor
  · rintro ⟨e, read, sized, room⟩
    simp only [FrameOp.exec, getFrame_eq, Option.map_map, Option.map_eq_some_iff] at read
    obtain ⟨vector, filled, rfl⟩ := read
    simp only [Function.comp_apply, getData_length] at room
    simp only [CanFrameData.Sized, CanFrameData.Classic, CanFrameData.Flexible, Function.comp_apply,
      getData_length] at sized
    rcases sized with ⟨res0, res1, _⟩ | ⟨res0, res1, size⟩ | ⟨res0, res1, size⟩
    · rw [res0, res1] at filled
      cases filled
    · exact Or.inl ⟨res0, res1, Nat.le_trans room (Nat.le_of_eq size)⟩
    · exact Or.inr ⟨res0, res1, Nat.le_trans room (Nat.le_of_eq size)⟩
  · intro fits
    obtain ⟨size, tagged, room⟩ := fits.tagged
    have nonneg : ¬(size : Int) < 0 := by omega
    refine ⟨⟨(getUInt32 order stream).1, stream.getD 4 0, stream.getD 5 0, stream.getD 6 0, stream.getD 7 0,
      (getData size (stream.drop 8)).1⟩, ?_, ?_, ?_⟩
    · simp only [FrameOp.exec, getFrame_eq, tagged.dataLength.1, qVectorFill, if_neg nonneg, Option.map_some,
        List.length_replicate, Int.toNat_natCast]
    · rcases tagged with h | h
      · exact Or.inr (Or.inl ⟨h.1, h.2.1, (getData_length _ _).trans h.2.2⟩)
      · exact Or.inr (Or.inr ⟨h.1, h.2.1, (getData_length _ _).trans h.2.2⟩)
    · rw [getData_length]
      exact room

/-- Every operation but the decoder keeps the invariant; the decoder keeps it where the header fits. -/
theorem FrameOp.exec_consistent (op : FrameOp) {d : CanFrameData} (h : d.Consistent)
    (fits : ∀ order stream, op = .read order stream → HeaderFits stream) :
    ∃ e, op.exec d = some e ∧ e.Consistent := by
  cases op with
  | setFrameType type => exact ⟨_, rfl, d.setFrameType_consistent type⟩
  | toDataFrame => exact ⟨_, rfl, d.toDataFrame_consistent⟩
  | toFdFrame => exact ⟨_, rfl, d.toFdFrame_consistent⟩
  | toErrorFrame => exact ⟨_, rfl, d.toErrorFrame_consistent⟩
  | toRtrFrame => exact ⟨_, rfl, d.toRtrFrame_consistent⟩
  | clear => exact ⟨_, rfl, d.clear_consistent⟩
  | setId id => exact ⟨_, rfl, (CanFrameData.consistent_id id).mpr h⟩
  | setCanId id => exact ⟨_, rfl, CanFrameData.setCanId_consistent h id⟩
  | setFrameFormat format => exact ⟨_, rfl, CanFrameData.setFrameFormat_consistent h format⟩
  | setDataLength bytes => exact ⟨_, rfl, CanFrameData.setDataLength_consistent h bytes⟩
  | setFdFrameFlags flags => exact ⟨_, rfl, CanFrameData.setFdFrameFlags_consistent h flags⟩
  | setData source len => exact ⟨_, rfl, CanFrameData.setData_consistent h source len⟩
  | write i c => exact ⟨_, rfl, CanFrameData.write_consistent h i c⟩
  | read order stream => exact (read_consistent_iff order stream d).mpr (fits order stream rfl)

theorem frameAfter_concat (start : Option CanFrameType) (ops : List FrameOp) (last : FrameOp) :
    frameAfter start (ops ++ [last]) = (frameAfter start ops).bind last.exec := by
  simp [frameAfter, List.foldlM_append]

/-- After every part of a history there is a frame whose tags, payload size and length agree, so that
showing it stays inside the payload, exactly when the headers decoded in it fit. -/
theorem frame_consistent_iff (start : Option CanFrameType) (ops : List FrameOp) :
    (∀ done, done <+: ops → ∃ d, frameAfter start done = some d ∧ d.Consistent ∧
        d.shownData = some (d.data.take d.dlen.toNat)) ↔
      ∀ order stream, FrameOp.read order stream ∈ ops → HeaderFits stream := by
  induction ops using List.reverseRecOn with
  | nil =>
    refine ⟨by simp, fun _ done sub => ?_⟩
    rw [List.prefix_nil.mp sub]
    have built := CanFrameData.construct_consistent start
    exact ⟨_, rfl, built, built.shownData⟩
  | append_singleton ops last ih =>
    constructor
    · intro all order stream mem
      rcases List.mem_append.mp mem with early | late
      · exact ih.mp (fun done sub => all done (sub.trans (List.prefix_append ops [last]))) order stream early
      · obtain ⟨d, before, _⟩ := all ops (List.prefix_append ops [last])
        obtain ⟨e, after, agree, _⟩ := all (ops ++ [last]) (List.prefix_refl _)
        rw [frameAfter_concat, before, Option.bind_some, ← List.mem_singleton.mp late] at after
        exact (read_consistent_iff order stream d).mp ⟨e, after, agree⟩
    · intro fits done sub
      have kept := ih.mpr fun order stream mem => fits order stream (List.mem_append_left [last] mem)
      rcases List.prefix_concat_iff.mp sub with rfl | inner
      · obtain ⟨d, before, agree, _⟩ := kept ops (List.prefix_refl ops)
        obtain ⟨e, after, agree⟩ := FrameOp.exec_consistent last agree
          fun order stream same => fits order stream (by simp [same])
        exact ⟨e, by rw [frameAfter_concat, before, Option.bind_some, after], agree, agree.shownData⟩
      · exact kept done inner

/-- A header of sixteen bytes that tells 200 data bytes, and a stream without a header. -/
theorem frame_inconsistent :
    (∃ d, frameAfter none [.read .bigEndian [0, 0, 1, 0x23, 200, 0, 8, 16, 1, 2, 3, 4, 5, 6, 7, 8]] = some d ∧
      d.data.length = 8 ∧ d.dlen = 200 ∧ ¬d.Consistent ∧ d.shownData = none) ∧
    frameAfter none [.read .bigEndian []] = none := by
  refine ⟨⟨_, rfl, rfl, rfl, fun agree => ?_, by decide⟩, rfl⟩
  exact absurd agree.room (by decide)

end CanSocket
