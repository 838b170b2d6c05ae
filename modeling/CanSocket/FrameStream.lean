import CanSocket.ByteOrder
import CanSocket.FrameData
import CanSocket.StreamCodec

namespace CanSocket

open Endian StreamCodec

/-- `QDataStream >> uint`: a short stream is used up and yields zero. -/
def getUInt32 (order : ByteOrder) (bytes : List UInt8) : UInt32 × List UInt8 :=
  if 4 ≤ bytes.length then (UInt32.ofNat (order.decode (bytes.take 4)), bytes.drop 4) else (0, [])

def getUInt8 : List UInt8 → UInt8 × List UInt8
  | [] => (0, [])
  | b :: bytes => (b, bytes)

def getData : Nat → List UInt8 → List UInt8 × List UInt8
  | 0, bytes => ([], bytes)
  | n + 1, bytes =>
    let (b, bytes) := getUInt8 bytes
    let (data, bytes) := getData n bytes
    (b :: data, bytes)

def unknownCanFrameError : UInt32 := 0x200

/-- `operator<<(QDataStream &, const CanFrame &)`: the bytes put on the stream. -/
def putFrame (order : ByteOrder) (d : CanFrameData) : List UInt8 :=
  if !d.isValid then []
  else order.encode 4 d.id.toNat ++ d.dlen :: d.flags :: d.res0 :: d.res1 :: d.data

/-- `operator>>(QDataStream &, CanFrame &)`: the frame read into `target` and what is left of
the stream, `none` when the vector is asked for a negative size. -/
def getFrame (order : ByteOrder) (target : CanFrameData) (bytes : List UInt8) :
    Option (CanFrameData × List UInt8) :=
  let (id, bytes) := getUInt32 order bytes
  let (dlen, bytes) := getUInt8 bytes
  let (flags, bytes) := getUInt8 bytes
  let (res0, bytes) := getUInt8 bytes
  let (res1, bytes) := getUInt8 bytes
  let frame := { target with id := id, dlen := dlen, flags := flags, res0 := res0, res1 := res1 }
  let dataLength := dataLengthFromResBytes res0 res1
  -- the failure value -1 counts as true here
  if dataLength ≠ 0 then
    (qVectorFill dataLength 48).map fun vector =>
      let (data, bytes) := getData vector.length bytes
      ({ frame with data := data }, bytes)
  else
    some ((frame.setCanId unknownCanFrameError).toErrorFrame, bytes)

theorem getUInt32_append (order : ByteOrder) {word : List UInt8} (len : word.length = 4)
    (rest : List UInt8) :
    getUInt32 order (word ++ rest) = (UInt32.ofNat (order.decode word), rest) := by
  have room : 4 ≤ (word ++ rest).length := by simp only [List.length_append]; omega
  rw [getUInt32, if_pos room, ← len, List.take_left, List.drop_left]

theorem getData_append (data rest : List UInt8) :
    getData data.length (data ++ rest) = (data, rest) := by
  induction data with
  | nil => rfl
  | cons b data ih => simp [getData, getUInt8, ih]

def Tagged (res0 res1 : UInt8) (size : Nat) : Prop :=
  res0 = 8 ∧ res1 = 16 ∧ size = canMaxDlen ∨ res0 = 64 ∧ res1 = 72 ∧ size = canfdMaxDlen

theorem Tagged.dataLength {res0 res1 : UInt8} {size : Nat} (h : Tagged res0 res1 size) :
    dataLengthFromResBytes res0 res1 = size ∧ size ≠ 0 := by
  rcases h with ⟨rfl, rfl, rfl⟩ | ⟨rfl, rfl, rfl⟩ <;> decide

theorem tagged_of_isValid {d : CanFrameData} (h : d.isValid = true) :
    Tagged d.res0 d.res1 d.data.length := by
  rcases CanFrameData.classic_or_flexible h with ⟨_, h⟩ | ⟨_, h⟩
  · exact Or.inl h
  · exact Or.inr h

/-- The decoder takes exactly one tagged frame off the stream and forgets the old target. -/
theorem getFrame_tagged (order : ByteOrder) {word data : List UInt8} {dlen flags res0 res1 : UInt8}
    (len : word.length = 4) (tagged : Tagged res0 res1 data.length)
    (target : CanFrameData) (rest : List UInt8) :
    getFrame order target (word ++ dlen :: flags :: res0 :: res1 :: (data ++ rest)) =
      some (⟨UInt32.ofNat (order.decode word), dlen, flags, res0, res1, data⟩, rest) := by
  obtain ⟨hl, hne⟩ := tagged.dataLength
  have positive : ¬(data.length : Int) < 0 := by omega
  have nonzero : (data.length : Int) ≠ 0 := by omega
  simp only [getFrame, getUInt32_append order len, getUInt8, hl, if_pos nonzero, qVectorFill,
    if_neg positive, Option.map_some, List.length_replicate, Int.toNat_natCast, getData_append]

def wireBytes (order : ByteOrder) (d : CanFrameData) : List UInt8 :=
  order.encode 4 d.id.toNat ++ d.dlen :: d.flags :: d.res0 :: d.res1 :: d.data

theorem putFrame_of_isValid (order : ByteOrder) {d : CanFrameData} (h : d.isValid = true) :
    putFrame order d = wireBytes order d := by
  simp [putFrame, wireBytes, h]

theorem putFrame_of_invalid (order : ByteOrder) {d : CanFrameData} (h : d.isValid = false) :
    putFrame order d = [] := by
  simp [putFrame, h]

/-- Whether valid or not, a frame with tags of its payload's size is delimited. -/
theorem wireBytes_delimits (order : ByteOrder) {d : CanFrameData} (h : Tagged d.res0 d.res1 d.data.length) :
    Delimits (wireBytes order) (getFrame order) d := by
  intro target rest
  have read := @getFrame_tagged order _ d.data d.dlen d.flags d.res0 d.res1
    (order.encode_length 4 d.id.toNat) h target rest
  rw [order.word_decode_encode] at read
  simpa [wireBytes] using read

theorem putFrame_delimits (order : ByteOrder) {d : CanFrameData} (h : d.isValid = true) :
    Delimits (putFrame order) (getFrame order) d := by
  intro target rest
  rw [putFrame_of_isValid order h]
  exact wireBytes_delimits order (tagged_of_isValid h) target rest

theorem putFrame_length (order : ByteOrder) {d : CanFrameData} (h : d.isValid = true) :
    (putFrame order d).length = if d.isFdFrame then canfdMtu else canMtu := by
  rw [putFrame_of_isValid order h, wireBytes]
  rcases CanFrameData.classic_or_flexible h with ⟨hf, hd⟩ | ⟨hf, hd⟩
  · simp [hf, hd.2.2, canMaxDlen, canMtu]
  · simp [hf, hd.2.2, canfdMaxDlen, canfdMtu]

/-- Reading once for each valid frame gives back the valid frames of a written list and leaves what
follows them, whatever the targets held. -/
theorem frames_stream_round_trip (order : ByteOrder) (frames targets : List CanFrameData)
    (trailing : List UInt8) (len : targets.length = (frames.filter CanFrameData.isValid).length) :
    decodeEach (getFrame order) targets (frames.flatMap (putFrame order) ++ trailing) =
      some (frames.filter CanFrameData.isValid, trailing) := by
  rw [← flatMap_filter fun d => putFrame_of_invalid order]
  apply decodeEach_flatMap _ targets len
  intro d hd
  exact putFrame_delimits order (List.mem_filter.mp hd).2

def classicSample : CanFrameData :=
  { id := 0x123, dlen := 3, res0 := 8, res1 := 16, data := [1, 2, 3, 0, 0, 0, 0, 0] }

def fdSample : CanFrameData :=
  { id := 0x80000123, dlen := 64, flags := 1, res0 := 64, res1 := 72, data := List.replicate 64 7 }

theorem frames_stream_round_trip_samples :
    decodeEach (getFrame .bigEndian) [fdSample, {}]
        ([classicSample, {}, fdSample].flatMap (putFrame .bigEndian) ++ [1, 2, 3]) =
      some ([classicSample, {}, fdSample].filter CanFrameData.isValid, [1, 2, 3]) :=
  frames_stream_round_trip .bigEndian [classicSample, {}, fdSample] [fdSample, {}] [1, 2, 3] (by decide)

end CanSocket
