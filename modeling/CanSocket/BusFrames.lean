import CanSocket.FrameStream
import CanSocket.RawRead

namespace CanSocket

open Endian StreamCodec

/-- `struct can_frame` and `struct canfd_frame` of the kernel; a classic frame has padding where
an FD frame has its flags. -/
structure BusFrame where
  id : UInt32
  len : UInt8
  flags : UInt8
  res0 : UInt8
  res1 : UInt8
  payload : List UInt8
deriving DecidableEq, Repr

/-- The frame as the kernel hands it out, the identifier in the order of the machine. -/
def BusFrame.bytes (order : ByteOrder) (f : BusFrame) : List UInt8 :=
  order.encode 4 f.id.toNat ++ f.len :: f.flags :: f.res0 :: f.res1 :: f.payload

/-- What a SocketCAN descriptor can deliver, under the type that flags and size name. -/
inductive BusFrame.Deliverable (fd : FlexibleDataRateFrames) (f : BusFrame) : CanFrameType → Prop
  | data : f.id &&& canErrFlag = 0 → f.id &&& canRtrFlag = 0 → f.len.toNat ≤ canMaxDlen →
      f.payload.length = canMaxDlen → Deliverable fd f .dataFrame
  | remote : f.id &&& canErrFlag = 0 → f.id &&& canRtrFlag ≠ 0 → f.len.toNat ≤ canMaxDlen →
      f.payload.length = canMaxDlen → Deliverable fd f .rtrFrame
  | error : f.id &&& canErrFlag ≠ 0 → f.id &&& canRtrFlag = 0 → f.len.toNat = canMaxDlen →
      f.payload.length = canMaxDlen → Deliverable fd f .errorFrame
  | flexible : fd = .enabledFdFrames → f.id &&& canErrFlag = 0 → f.id &&& canRtrFlag = 0 →
      f.len.toNat ≤ canfdMaxDlen → f.payload.length = canfdMaxDlen → Deliverable fd f .fdFrame

def frameOf (order : ByteOrder) (frame : List UInt8) : CanFrameData where
  id := UInt32.ofNat (order.decode (frame.take 4))
  dlen := frame.getD 4 0
  flags := frame.getD 5 0
  res0 := res0FromCanMtu frame.length
  res1 := res1FromCanMtu frame.length
  data := frame.drop 8

theorem tagFrame_split {frame : List UInt8} (long : 8 ≤ frame.length) :
    tagFrame frame = frame.take 4 ++ frame.getD 4 0 :: frame.getD 5 0 ::
      res0FromCanMtu frame.length :: res1FromCanMtu frame.length :: frame.drop 8 := by
  match frame, long with
  | a :: b :: c :: d :: e :: f :: g :: h :: rest, _ => rfl

/-- Encoding the decoded frame gives the tagged bytes back, be it valid or not. -/
theorem wireBytes_frameOf (order : ByteOrder) {frame : List UInt8} (long : 8 ≤ frame.length) :
    wireBytes order (frameOf order frame) = tagFrame frame := by
  have word : (frame.take 4).length = 4 := by
    rw [List.length_take]
    omega
  rw [wireBytes, frameOf, order.word_encode_decode word, tagFrame_split long]

theorem frameOf_tagged (order : ByteOrder) {frame : List UInt8}
    (size : frame.length = canMtu ∨ frame.length = canfdMtu) :
    Tagged (frameOf order frame).res0 (frameOf order frame).res1 (frameOf order frame).data.length := by
  rcases size with size | size
  · left
    simp [frameOf, size, res0FromCanMtu, res1FromCanMtu, canMtu, canMaxDlen]
  · right
    simp [frameOf, size, res0FromCanMtu, res1FromCanMtu, canMtu, canfdMtu, canfdMaxDlen]

theorem getFrame_tagFrame (order : ByteOrder) {frame : List UInt8}
    (size : frame.length = canMtu ∨ frame.length = canfdMtu) (target : CanFrameData) (rest : List UInt8) :
    getFrame order target (tagFrame frame ++ rest) = some (frameOf order frame, rest) := by
  have long : 8 ≤ frame.length := by
    simp only [canMtu, canfdMtu] at size
    omega
  rw [← wireBytes_frameOf order long]
  exact wireBytes_delimits order (frameOf_tagged order size) target rest

namespace BusFrame

variable {fd : FlexibleDataRateFrames} {kind : CanFrameType} {f : BusFrame}

@[simp] theorem bytes_length (order : ByteOrder) (f : BusFrame) :
    (f.bytes order).length = f.payload.length + 8 := by
  simp only [bytes, List.length_append, order.encode_length, List.length_cons]
  omega

theorem Deliverable.size (order : ByteOrder) (h : f.Deliverable fd kind) :
    (f.bytes order).length = canMtu ∨ fd = .enabledFdFrames ∧ (f.bytes order).length = canfdMtu := by
  rw [bytes_length]
  cases h with
  | data _ _ _ size => exact Or.inl (by rw [size]; rfl)
  | remote _ _ _ size => exact Or.inl (by rw [size]; rfl)
  | error _ _ _ size => exact Or.inl (by rw [size]; rfl)
  | flexible enabled _ _ _ size => exact Or.inr ⟨enabled, by rw [size]; rfl⟩

theorem frameOf_bytes (order : ByteOrder) (f : BusFrame) :
    frameOf order (f.bytes order) = ⟨f.id, f.len, f.flags, res0FromCanMtu (f.payload.length + 8),
      res1FromCanMtu (f.payload.length + 8), f.payload⟩ := by
  have split : ∀ word : List UInt8, word.length = 4 →
      frameOf order (word ++ f.len :: f.flags :: f.res0 :: f.res1 :: f.payload) =
        ⟨UInt32.ofNat (order.decode word), f.len, f.flags, res0FromCanMtu (f.payload.length + 8),
          res1FromCanMtu (f.payload.length + 8), f.payload⟩ := by
    intro word len
    match word, len with
    | [_, _, _, _], _ => rfl
  rw [bytes, split _ (order.encode_length 4 _), order.word_decode_encode]

/-- The types of `CanFrame` cover what can be delivered, remote requests with a length apart. -/
theorem Deliverable.frameType (order : ByteOrder) (h : f.Deliverable fd kind) :
    (frameOf order (f.bytes order)).frameType =
      if kind = .rtrFrame ∧ f.len ≠ 0 then .unknownFrame else kind := by
  have classic : f.payload.length = canMaxDlen → (frameOf order (f.bytes order)).Classic := by
    intro size
    simp [f.frameOf_bytes order, CanFrameData.Classic, size, res0FromCanMtu, res1FromCanMtu, canMaxDlen, canMtu]
  have flags : (frameOf order (f.bytes order)).errFlag = (f.id &&& canErrFlag != 0) ∧
      (frameOf order (f.bytes order)).rtrFlag = (f.id &&& canRtrFlag != 0) ∧
      (frameOf order (f.bytes order)).dlen = f.len := by
    rw [f.frameOf_bytes order]
    exact ⟨rfl, rfl, rfl⟩
  cases h with
  | data err rtr len size =>
    rw [CanFrameData.frameType_classic (classic size)]
    simp [flags, err, rtr, len]
  | remote err rtr len size =>
    have zero : f.len.toNat = 0 ↔ f.len = 0 := by
      rw [← UInt8.toNat_inj]
      rfl
    have set : (f.id &&& canRtrFlag != 0) = true := bne_iff_ne.mpr rtr
    rw [CanFrameData.frameType_classic (classic size)]
    by_cases none : f.len = 0 <;> simp [flags, err, set, zero, none]
  | error err rtr len size =>
    have set : (f.id &&& canErrFlag != 0) = true := bne_iff_ne.mpr err
    rw [CanFrameData.frameType_classic (classic size)]
    simp [flags, set, rtr, len]
  | flexible enabled err rtr len size =>
    have flexible : (frameOf order (f.bytes order)).Flexible := by
      simp [f.frameOf_bytes order, CanFrameData.Flexible, size, res0FromCanMtu, res1FromCanMtu,
        canfdMaxDlen, canMtu, canfdMtu]
    rw [CanFrameData.frameType_flexible flexible]
    simp [flags, err, rtr, len]

theorem Deliverable.kind_ne (h : f.Deliverable fd kind) : kind ≠ .unknownFrame := by
  cases h <;> decide

end BusFrame

theorem rawReadFromSocket_frame {fd : FlexibleDataRateFrames} {frame : List UInt8}
    (size : frame.length = canMtu ∨ fd = .enabledFdFrames ∧ frame.length = canfdMtu) {maxSize : Int}
    (room : frameSize fd ≤ maxSize) :
    (rawReadFromSocket fd maxSize [.got frame]).data = tagFrame frame := by
  have nonempty : frame ≠ [] := by
    rintro rfl
    rcases size with size | ⟨_, size⟩ <;> cases size
  have bus : (ReadAnswer.got frame).OnBus fd := Or.inr size
  obtain ⟨whole, fits⟩ := bus.size nonempty
  have nonzero : ¬frame.length = 0 := fun h => nonempty (List.length_eq_zero_iff.mp h)
  have inside : ((0 : Nat) : Int) ≤ maxSize - frameSize fd := by omega
  simp only [rawReadFromSocket, readLoop, List.length_nil, if_pos inside, whole, if_neg nonzero, if_pos fits,
    List.nil_append]
  split <;> rfl

/-- Every frame the bus delivers, tagged by `readFromSocket` and decoded by `operator>>`, is of its
own type and encoded as the tagged bytes again, except that a remote request with a length
is of no type and encoded as nothing. -/
theorem bus_frame_representable (order : ByteOrder) {fd : FlexibleDataRateFrames} {kind : CanFrameType}
    {f : BusFrame} (deliverable : f.Deliverable fd kind) {maxSize : Int} (room : frameSize fd ≤ maxSize)
    (target : CanFrameData) :
    ∃ d, getFrame order target (rawReadFromSocket fd maxSize [.got (f.bytes order)]).data = some (d, []) ∧
      (¬(kind = .rtrFrame ∧ f.len ≠ 0) → d.isValid = true ∧ d.frameType = kind ∧
        putFrame order d = (rawReadFromSocket fd maxSize [.got (f.bytes order)]).data) ∧
      (kind = .rtrFrame ∧ f.len ≠ 0 → d.frameType = .unknownFrame ∧ putFrame order d = []) := by
  have size := deliverable.size order
  have long : 8 ≤ (f.bytes order).length := by
    rw [f.bytes_length]
    omega
  have named := deliverable.frameType order
  have read := getFrame_tagFrame order (size.imp_right And.right) target []
  rw [List.append_nil] at read
  rw [rawReadFromSocket_frame size room]
  refine ⟨frameOf order (f.bytes order), read, ?_, ?_⟩
  · intro regular
    rw [if_neg regular] at named
    have valid : (frameOf order (f.bytes order)).isValid = true := by
      simpa [CanFrameData.isValid, named] using deliverable.kind_ne
    rw [putFrame_of_isValid order valid]
    exact ⟨valid, named, wireBytes_frameOf order long⟩
  · intro remote
    rw [if_pos remote] at named
    have invalid : (frameOf order (f.bytes order)).isValid = false := by
      simp [CanFrameData.isValid, named]
    exact ⟨named, putFrame_of_invalid order invalid⟩

theorem bus_frame_representable_extended :
    let f : BusFrame := ⟨0x9ABCDEF0, 5, 0, 0, 0, [1, 2, 3, 4, 5, 0, 0, 0]⟩
    ∃ d, getFrame .littleEndian {}
        (rawReadFromSocket .disabledFdFrames 16 [.got (f.bytes .littleEndian)]).data = some (d, []) ∧
      (¬(CanFrameType.dataFrame = .rtrFrame ∧ f.len ≠ 0) → d.isValid = true ∧ d.frameType = .dataFrame ∧
        putFrame .littleEndian d =
          (rawReadFromSocket .disabledFdFrames 16 [.got (f.bytes .littleEndian)]).data) ∧
      (CanFrameType.dataFrame = .rtrFrame ∧ f.len ≠ 0 →
        d.frameType = .unknownFrame ∧ putFrame .littleEndian d = []) :=
  bus_frame_representable .littleEndian (.data (by decide) (by decide) (by decide) rfl) (by decide) {}

/-- A remote request for one byte. -/
theorem bus_frame_representable_fails :
    let f : BusFrame := ⟨0x40000123, 1, 0, 0, 0, [0, 0, 0, 0, 0, 0, 0, 0]⟩
    let tagged := (rawReadFromSocket .disabledFdFrames 16 [.got (f.bytes .littleEndian)]).data
    f.Deliverable .disabledFdFrames .rtrFrame ∧
      (getFrame .littleEndian {} tagged).map (fun r => (r.1.frameType, putFrame .littleEndian r.1)) =
        some (.unknownFrame, []) :=
  ⟨.remote (by decide) (by decide) (by decide) rfl, by decide⟩

end CanSocket
