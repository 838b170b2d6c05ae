import CanSocket.BusFrames
import CanSocket.FrameSetters
import CanSocket.MalformedFrames

namespace CanSocket

open Endian

/-- The bits of an error frame's identifier that `error()` tells of. -/
def errorClasses : UInt32 := 0x1FF

namespace CanFrameData

theorem error_eq (d : CanFrameData) : d.error = if d.isErrorFrame then d.canId &&& errorClasses else 0 := by
  have single : ∀ f ∈ canFrameErrors, f.1 = f.2 ∧ ∃ i, f.2.toBitVec = BitVec.twoPow 32 i := by
    intro f mem
    simp only [canFrameErrors, List.mem_cons, List.not_mem_nil, or_false] at mem
    rcases mem with rfl | rfl | rfl | rfl | rfl | rfl | rfl | rfl | rfl
    exacts [⟨rfl, 0, rfl⟩, ⟨rfl, 1, rfl⟩, ⟨rfl, 2, rfl⟩, ⟨rfl, 3, rfl⟩, ⟨rfl, 4, rfl⟩, ⟨rfl, 5, rfl⟩, ⟨rfl, 6, rfl⟩,
      ⟨rfl, 7, rfl⟩, ⟨rfl, 8, rfl⟩]
  unfold error
  cases d.isErrorFrame with
  | false => rfl
  | true => exact (WordMask.foldl_flags single d.canId 0).trans (UInt32.zero_or ..)

theorem isErrorFrame_iff (d : CanFrameData) : d.isErrorFrame = true ↔ d.frameType = .errorFrame := by
  constructor
  · intro error
    have flag : d.errFlag = true := by
      simp only [isErrorFrame, Bool.and_eq_true] at error
      exact error.1.2
    have data : d.isDataFrame = false := by simp [isDataFrame, flag]
    have fd : d.isFdFrame = false := by simp [isFdFrame, flag]
    simp [frameType, data, fd, error]
  · intro type
    unfold frameType at type
    cases error : d.isErrorFrame with
    | true => rfl
    | false =>
      rw [error] at type
      split at type
      · cases type
      · split at type
        · cases type
        · simp only [Bool.false_eq_true, if_false] at type
          split at type <;> cases type

/-- An error frame the application makes tells the classes it was given. -/
theorem toErrorFrame_error (d : CanFrameData) (errors : UInt32) :
    ((d.setCanId errors).toErrorFrame).error = errors &&& errorClasses := by
  have made := (d.setCanId errors).toErrorFrame_becomes
  have classes : canEffMask &&& errorClasses = errorClasses := by decide
  have given : (d.setCanId errors).canId = errors &&& canEffMask := by
    rw [setCanId_eq]
    exact WordMask.put_self canEffMask d.id errors
  rw [error_eq, if_pos ((isErrorFrame_iff _).mpr (d.setCanId errors).toErrorFrame_frameType), made.same.1, given,
    UInt32.and_assoc, classes]

end CanFrameData

/-- The classes of an error reach the other side whole: an error frame from the bus tells after the read and the
decoder exactly those the kernel put into its identifier, a frame of another type tells none, and an error frame made
of any frame by the application tells those it was given, before and after it went through a stream. -/
theorem error_classes_carried (order : ByteOrder) (target : CanFrameData) :
    (∀ (fd : FlexibleDataRateFrames) (kind : CanFrameType) (f : BusFrame) (maxSize : Int), f.Deliverable fd kind →
        frameSize fd ≤ maxSize →
      ∃ d, getFrame order target (rawReadFromSocket fd maxSize [.got (f.bytes order)]).data = some (d, []) ∧
        d.error = if kind = .errorFrame then f.id &&& errorClasses else 0) ∧
      ∀ (d : CanFrameData) (errors : UInt32) (rest : List UInt8),
        ((d.setCanId errors).toErrorFrame).error = errors &&& errorClasses ∧
          ∃ e, getFrame order target (putFrame order (d.setCanId errors).toErrorFrame ++ rest) = some (e, rest) ∧
            e.error = errors &&& errorClasses := by
  constructor
  · intro fd kind f maxSize deliverable room
    have size := deliverable.size order
    have read := getFrame_tagFrame order (size.imp_right And.right) target []
    rw [List.append_nil] at read
    rw [rawReadFromSocket_frame size room]
    refine ⟨frameOf order (f.bytes order), read, ?_⟩
    have id : (frameOf order (f.bytes order)).canId = f.id &&& canEffMask := by rw [f.frameOf_bytes order]; rfl
    have classes : canEffMask &&& errorClasses = errorClasses := by decide
    have named := deliverable.frameType order
    have type : (frameOf order (f.bytes order)).isErrorFrame = true ↔ kind = .errorFrame := by
      rw [CanFrameData.isErrorFrame_iff, named]
      split
      next remote => simp [remote.1]
      next => rfl
    rw [CanFrameData.error_eq, id, UInt32.and_assoc, classes]
    exact if_congr type rfl rfl
  · intro d errors rest
    have valid : (d.setCanId errors).toErrorFrame.isValid = true := by
      rw [CanFrameData.isValid, (d.setCanId errors).toErrorFrame_frameType]
      rfl
    exact ⟨d.toErrorFrame_error errors, _, putFrame_delimits order valid target rest, d.toErrorFrame_error errors⟩

/-- A bus error as the kernel reports it, and one the application makes. -/
theorem error_classes_carried_busError :
    let f : BusFrame := ⟨0x20000088, 8, 0, 0, 0, [0, 0, 2, 0, 0, 0, 0, 0]⟩
    let made := (CanFrameData.setCanId {} 0x88).toErrorFrame
    (∃ d, getFrame .littleEndian {} (rawReadFromSocket .disabledFdFrames 16 [.got (f.bytes .littleEndian)]).data =
        some (d, []) ∧ d.error = if CanFrameType.errorFrame = .errorFrame then f.id &&& errorClasses else 0) ∧
      made.error = 0x88 &&& errorClasses ∧
        ∃ e, getFrame .littleEndian {} (putFrame .littleEndian made ++ []) = some (e, []) ∧
          e.error = 0x88 &&& errorClasses :=
  have carried := error_classes_carried .littleEndian {}
  ⟨carried.1 .disabledFdFrames .errorFrame _ 16 (.error (by decide) (by decide) rfl rfl) (by decide),
    carried.2 {} 0x88 []⟩

end CanSocket
