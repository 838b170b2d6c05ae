import CanSocket.FrameConsistency

namespace CanSocket

open Endian StreamCodec

/-- The end of a frame's code the decoder does without: data bytes, which it then takes to be zero. -/
def Unsent (d : CanFrameData) (missing : List UInt8) : Prop :=
  missing = List.replicate missing.length 0 ∧ missing.length ≤ d.data.length

theorem getData_eq (n : Nat) (bytes : List UInt8) :
    getData n bytes = (bytes.take n ++ List.replicate (n - bytes.length) 0, bytes.drop n) := by
  induction n generalizing bytes with
  | zero => simp [getData]
  | succ n ih =>
    cases bytes with
    | nil => simp [getData, getUInt8, ih, List.replicate_succ]
    | cons b bytes => simp [getData, getUInt8, ih]

/-- The data read and the rest of the stream are the stream again, but for zeros read past its end. -/
theorem getData_restores (n : Nat) (bytes : List UInt8) :
    (getData n bytes).1 ++ (getData n bytes).2 = bytes ++ List.replicate (n - bytes.length) 0 ∧
      (n - bytes.length = 0 ∨ (getData n bytes).2 = []) := by
  rw [getData_eq]
  by_cases enough : n ≤ bytes.length
  · have none : n - bytes.length = 0 := by omega
    simp [none]
  · have all : bytes.length ≤ n := by omega
    simp [List.take_of_length_le all, List.drop_of_length_le all]

theorem getData_unsent {data front missing rest : List UInt8} (code : data ++ rest = front ++ missing)
    (zeros : missing = List.replicate missing.length 0) (inside : missing.length ≤ data.length)
    (ends : missing = [] ∨ rest = []) : getData data.length front = (data, rest) := by
  rcases ends with rfl | rfl
  · rw [List.append_nil] at code
    rw [← code, getData_append]
  · rw [List.append_nil] at code
    have size : data.length - front.length = missing.length := by simp [code]
    have all : front.length ≤ data.length := by simp [code]
    rw [getData_eq, size, ← zeros, List.take_of_length_le all, List.drop_of_length_le all, code]

theorem tagged_of_dataLength {res0 res1 : UInt8} (known : ¬dataLengthFromResBytes res0 res1 < 0) :
    Tagged res0 res1 (dataLengthFromResBytes res0 res1).toNat := by
  unfold dataLengthFromResBytes at known ⊢
  split at known
  next tags =>
    rw [if_pos tags]
    exact Or.inl ⟨tags.1, tags.2, rfl⟩
  next classic =>
    split at known
    next tags =>
      rw [if_neg classic, if_pos tags]
      exact Or.inr ⟨tags.1, tags.2, rfl⟩
    next => exact absurd (by decide) known

theorem wireBytes_length (order : ByteOrder) (d : CanFrameData) : (wireBytes order d).length = d.data.length + 8 := by
  simp only [wireBytes, List.length_append, order.encode_length, List.length_cons]
  omega

/-- With tags it knows, the decoder takes the data of their size from behind the header. -/
theorem getFrame_header (order : ByteOrder) (target : CanFrameData) {word front : List UInt8}
    {dlen flags res0 res1 : UInt8} {size : Nat} (len : word.length = 4) (tagged : Tagged res0 res1 size) :
    getFrame order target (word ++ dlen :: flags :: res0 :: res1 :: front) =
      some (⟨UInt32.ofNat (order.decode word), dlen, flags, res0, res1, (getData size front).1⟩,
        (getData size front).2) := by
  obtain ⟨hl, hne⟩ := tagged.dataLength
  have positive : ¬(size : Int) < 0 := by omega
  have nonzero : (size : Int) ≠ 0 := by omega
  simp only [getFrame, getUInt32_append order len, getUInt8, hl, if_pos nonzero, qVectorFill, if_neg positive,
    Option.map_some, List.length_replicate, Int.toNat_natCast]

theorem header_of_length {bytes : List UInt8} (long : 8 ≤ bytes.length) :
    ∃ a b c e dlen flags res0 res1 front, bytes = a :: b :: c :: e :: dlen :: flags :: res0 :: res1 :: front := by
  refine ⟨bytes[0], bytes[1], bytes[2], bytes[3], bytes[4], bytes[5], bytes[6], bytes[7], bytes.drop 8, ?_⟩
  simp only [List.getElem_cons_drop, List.drop_zero]

/-- The decoder takes the codes of tagged frames, the last data bytes of a stream apart, and nothing else. -/
theorem getFrame_accepts (order : ByteOrder) : Accepts (wireBytes order) (getFrame order)
    (fun d => Tagged d.res0 d.res1 d.data.length) Unsent where
  whole _ := ⟨rfl, Nat.zero_le _⟩
  short spare := by
    rw [wireBytes_length]
    exact Nat.lt_of_le_of_lt spare.2 (by omega)
  takes {d} target {bytes rest missing} tagged spare code ends := by
    have long : (order.encode 4 d.id.toNat ++ [d.dlen, d.flags, d.res0, d.res1]).length ≤ bytes.length := by
      have size := congrArg List.length code
      have inside := spare.2
      simp only [List.length_append, wireBytes_length, order.encode_length, List.length_cons, List.length_nil] at size ⊢
      omega
    have header : wireBytes order d ++ rest =
        (order.encode 4 d.id.toNat ++ [d.dlen, d.flags, d.res0, d.res1]) ++ (d.data ++ rest) := by simp [wireBytes]
    rw [header] at code
    obtain ⟨front, rfl⟩ : ∃ front, bytes = (order.encode 4 d.id.toNat ++ [d.dlen, d.flags, d.res0, d.res1]) ++ front :=
      (List.prefix_of_prefix_length_le ⟨_, code⟩ (List.prefix_append bytes missing) long).imp fun _ eq => eq.symm
    rw [List.append_assoc _ front, List.append_cancel_left_eq] at code
    have read := @getFrame_header order target _ front d.dlen d.flags _ _ _ (order.encode_length 4 d.id.toNat) tagged
    rw [getData_unsent code spare.1 spare.2 ends, order.word_decode_encode] at read
    simpa using read
  only {target bytes d rest} decoded := by
    have tags : ¬dataLengthFromResBytes (bytes.getD 6 0) (bytes.getD 7 0) < 0 := by
      intro negative
      rw [getFrame_eq, qVectorFill, if_pos negative] at decoded
      cases decoded
    have tagged := tagged_of_dataLength tags
    have long : 8 ≤ bytes.length := by
      by_contra short
      have none : bytes.getD 7 0 = 0 := by
        rw [List.getD_eq_getElem?_getD, List.getElem?_eq_none (by omega)]
        rfl
      rw [none] at tagged
      rcases tagged with ⟨_, h, _⟩ | ⟨_, h, _⟩ <;> cases h
    obtain ⟨a, b, c, e, dlen, flags, res0, res1, front, rfl⟩ := header_of_length long
    have word : [a, b, c, e].length = 4 := rfl
    have read := @getFrame_header order target _ front dlen flags res0 res1 _ word tagged
    obtain ⟨rfl, rfl⟩ := Prod.mk.inj (Option.some.inj (decoded.symm.trans read))
    obtain ⟨restores, ends⟩ := getData_restores (dataLengthFromResBytes res0 res1).toNat front
    refine ⟨?_, List.replicate ((dataLengthFromResBytes res0 res1).toNat - front.length) 0, ?_, ?_, ?_⟩
    · simpa [getData_length] using tagged
    · simp [Unsent, getData_length]
    · dsimp only [wireBytes]
      rw [order.word_encode_decode word]
      simpa using restores
    · simpa using ends

/-- What the decoder makes frames of: a stream decodes to its end exactly as tagged frames whose codes it is, where
data bytes may be missing from the end of the last one and count as zeros. -/
theorem decoded_stream_iff (order : ByteOrder) (target : CanFrameData) (stream : List UInt8)
    (frames : List CanFrameData) :
    decodeAll (getFrame order) stream.length target stream = some frames ↔
      (∀ d ∈ frames, Tagged d.res0 d.res1 d.data.length) ∧
        ∃ missing, frames.flatMap (wireBytes order) = stream ++ List.replicate missing 0 ∧
          missing ≤ ((frames.getLast?).map fun d => d.data.length).getD 0 := by
  constructor
  · intro decoded
    obtain ⟨tagged, missing, codes, spares⟩ := (getFrame_accepts order).of_decodeAll decoded
    refine ⟨tagged, missing.length, ?_, ?_⟩
    · rcases spares with rfl | ⟨d, at_last, zeros, inside⟩
      · exact codes
      · rwa [← zeros]
    · rcases spares with rfl | ⟨d, at_last, zeros, inside⟩
      · exact Nat.zero_le _
      · simpa [at_last] using inside
  · rintro ⟨tagged, missing, codes, inside⟩
    refine (getFrame_accepts order).decodeAll_codes tagged ?_ (Nat.le_refl _) codes target
    cases at_last : frames.getLast? with
    | none => exact Or.inl (by simpa [at_last] using inside)
    | some d => exact Or.inr ⟨d, at_last, by simp, by simpa [at_last] using inside⟩

end CanSocket
