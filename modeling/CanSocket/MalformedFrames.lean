import CanSocket.FrameConversions

namespace CanSocket

open Endian

/-- The kernel's bits of an error frame's identifier with the flags of `CanFrame::CanFrameErrors`. -/
def canFrameErrors : List (UInt32 × UInt32) :=
  [(0x1, 0x1),        -- CAN_ERR_TX_TIMEOUT, TxTimeoutError
    (0x2, 0x2),       -- CAN_ERR_LOSTARB, LostArbitrationError
    (0x4, 0x4),       -- CAN_ERR_CRTL, ControllerProblemsError
    (0x8, 0x8),       -- CAN_ERR_PROT, ProtocolViolationsError
    (0x10, 0x10),     -- CAN_ERR_TRX, TransceiverStatusError
    (0x20, 0x20),     -- CAN_ERR_ACK, NoAckOnTransmissionError
    (0x40, 0x40),     -- CAN_ERR_BUSOFF, BusOffError
    (0x80, 0x80),     -- CAN_ERR_BUSERROR, BusError
    (0x100, 0x100)]   -- CAN_ERR_RESTARTED, ControllerRestartedError

def CanFrameData.error (d : CanFrameData) : UInt32 :=
  if !d.isErrorFrame then 0
  else canFrameErrors.foldl (fun errors (bit, flag) => if d.canId &&& bit ≠ 0 then errors ||| flag else errors) 0

/-- `operator>>` for any constructor of the vector, also where that is asked for less than its
contract allows; the loop writes the places below `dataLength`. -/
def getFrameWith (fill : Int → UInt8 → Option (List UInt8)) (order : ByteOrder) (target : CanFrameData)
    (bytes : List UInt8) : Option (CanFrameData × List UInt8) :=
  let (id, bytes) := getUInt32 order bytes
  let (dlen, bytes) := getUInt8 bytes
  let (flags, bytes) := getUInt8 bytes
  let (res0, bytes) := getUInt8 bytes
  let (res1, bytes) := getUInt8 bytes
  let frame := { target with id := id, dlen := dlen, flags := flags, res0 := res0, res1 := res1 }
  let dataLength := dataLengthFromResBytes res0 res1
  if dataLength ≠ 0 then
    (fill dataLength 48).map fun vector =>
      let (data, bytes) := getData dataLength.toNat bytes
      ({ frame with data := data ++ vector.drop dataLength.toNat }, bytes)
  else
    some ((frame.setCanId unknownCanFrameError).toErrorFrame, bytes)

theorem getFrame_eq_with (order : ByteOrder) (target : CanFrameData) (bytes : List UInt8) :
    getFrame order target bytes = getFrameWith qVectorFill order target bytes := by
  unfold getFrame getFrameWith
  dsimp only
  split
  next =>
    unfold qVectorFill
    split
    next => rfl
    next => simp
  next => rfl

theorem dataLengthFromResBytes_ne_zero (res0 res1 : UInt8) : dataLengthFromResBytes res0 res1 ≠ 0 := by
  unfold dataLengthFromResBytes
  split
  · decide
  · split <;> decide

/-- The branch for malformed input is never taken: a decoded frame has the reserved bytes it read. -/
theorem getFrameWith_reserved {fill : Int → UInt8 → Option (List UInt8)} {order : ByteOrder}
    {target e : CanFrameData} {stream rest : List UInt8}
    (decoded : getFrameWith fill order target stream = some (e, rest)) :
    e.res0 = stream.getD 6 0 ∧ e.res1 = stream.getD 7 0 := by
  simp only [getFrameWith, if_pos (dataLengthFromResBytes_ne_zero _ _), Option.map_eq_some_iff] at decoded
  obtain ⟨vector, _, eq⟩ := decoded
  obtain ⟨rfl, _⟩ := Prod.mk.inj eq
  simp [getUInt8_eq, getUInt32_rest, List.getD_eq_getElem?_getD]

/-- What a frame has to be for malformed input to be reported by it. -/
structure ReportsMalformed (e : CanFrameData) : Prop where
  error : e.isErrorFrame = true
  size : e.data.length = canMaxDlen
  canId : e.canId = unknownCanFrameError
  contains : e.error &&& unknownCanFrameError ≠ 0

/-- The reserved bytes the decoder reads are those of neither kind of frame. -/
def Untagged (stream : List UInt8) : Prop :=
  ¬(stream.getD 6 0 = 8 ∧ stream.getD 7 0 = 16) ∧ ¬(stream.getD 6 0 = 64 ∧ stream.getD 7 0 = 72)

instance (stream : List UInt8) : Decidable (Untagged stream) := inferInstanceAs (Decidable (_ ∧ _))

/-- Malformed input is never reported: where the decoder comes back at all, the frame is of no
type and tells no error. -/
theorem malformed_not_reported (fill : Int → UInt8 → Option (List UInt8)) (order : ByteOrder)
    (target : CanFrameData) {stream : List UInt8} (untagged : Untagged stream) :
    (¬∃ e rest, getFrameWith fill order target stream = some (e, rest) ∧ ReportsMalformed e) ∧
      ∀ e rest, getFrameWith fill order target stream = some (e, rest) →
        e.frameType = .unknownFrame ∧ e.error = 0 := by
  have unknown : ∀ e rest, getFrameWith fill order target stream = some (e, rest) →
      e.frameType = .unknownFrame := by
    intro e rest decoded
    obtain ⟨res0, res1⟩ := getFrameWith_reserved decoded
    by_contra known
    have valid : e.isValid = true := by simpa [CanFrameData.isValid] using known
    rcases tagged_of_isValid valid with ⟨h0, h1, _⟩ | ⟨h0, h1, _⟩
    · exact untagged.1 ⟨res0.symm.trans h0, res1.symm.trans h1⟩
    · exact untagged.2 ⟨res0.symm.trans h0, res1.symm.trans h1⟩
  have silent : ∀ e : CanFrameData, e.frameType = .unknownFrame → e.isErrorFrame = false := by
    intro e untyped
    by_contra error
    have valid := e.isValid_iff.mpr (Or.inr (Or.inr (Or.inl (by simpa using error))))
    rw [CanFrameData.isValid, untyped] at valid
    cases valid
  refine ⟨?_, fun e rest decoded => ⟨unknown e rest decoded, ?_⟩⟩
  · rintro ⟨e, rest, decoded, reports⟩
    exact absurd reports.error (by simp [silent e (unknown e rest decoded)])
  · simp [CanFrameData.error, silent e (unknown e rest decoded)]

theorem malformed_not_reported_zeros :
    (¬∃ e rest, getFrameWith qVectorFill .bigEndian {} (List.replicate 16 0) = some (e, rest) ∧
        ReportsMalformed e) ∧
      ∀ e rest, getFrameWith qVectorFill .bigEndian {} (List.replicate 16 0) = some (e, rest) →
        e.frameType = .unknownFrame ∧ e.error = 0 :=
  malformed_not_reported qVectorFill .bigEndian {} (by decide)

/-- Sixteen zero bytes, read with the vector's contract in force and with a constructor that
makes an empty vector of a negative size. -/
theorem malformed_fails :
    Untagged (List.replicate 16 0) ∧ getFrame .bigEndian {} (List.replicate 16 0) = none ∧
      ∃ e rest, getFrameWith (fun n c => some (List.replicate n.toNat c)) .bigEndian {} (List.replicate 16 0) =
          some (e, rest) ∧ e.frameType = .unknownFrame ∧ e.error = 0 ∧ ¬ReportsMalformed e := by
  refine ⟨by decide, rfl, _, _, rfl, by decide, by decide, fun reports => ?_⟩
  exact absurd reports.error (by decide)

end CanSocket
