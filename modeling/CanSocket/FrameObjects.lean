import CanSocket.CopyOrigins
import CanSocket.FrameOperations

namespace CanSocket

open ObjectHeap

/-- Whether the operation reaches the payload through the non-const pointer, that copies it when shared. -/
def FrameOp.detaches (d : CanFrameData) : FrameOp → Bool
  | .setDataLength bytes =>
    d.isValid && !(d.dlen.toNat : Int) == bytes && !(d.isRtrFrame || d.isErrorFrame) &&
      decide (0 ≤ bytes ∧ bytes ≤ d.maxDataLength)
  | .setFdFrameFlags _ => d.frameType == .fdFrame
  | .setData _ len => decide (0 < d.copyLength len)
  | _ => true

/-- One step of a program with `CanFrame` objects. `CanFrame(type)` is `construct` and then
`setFrameType`; `assign` is the copy constructor where its first name is new. -/
inductive FrameStep
  | construct (x : Nat)
  | assign (x y : Nat)
  | swap (x y : Nat)
  | destroy (x : Nat)
  | change (x : Nat) (op : FrameOp)

def FrameStep.exec (h : Heap (Nat × CanFrameData)) : FrameStep → Option (Heap (Nat × CanFrameData))
  | .construct x => some (h.construct x {})
  | .assign x y => some (h.assign x y)
  | .swap x y => some (h.swap x y)
  | .destroy x => some (h.destroy x)
  | .change x op =>
    match h.value x with
    | some d => (op.exec d).map fun e => if op.detaches d then h.modify x e else h
    | none => some h

def frameHeap (program : List FrameStep) : Option (Heap (Nat × CanFrameData)) :=
  program.foldlM (fun h step => step.exec h) Heap.empty

/-- `CanFrame::operator ==`: the pointers are compared. -/
def equalFrames (h : Heap (Nat × CanFrameData)) (x y : Nat) : Bool := h.pointers x == h.pointers y

def CanFrameData.greater (d e : CanFrameData) : Bool := d.canId &&& canEffMask > e.canId &&& canEffMask

def CanFrameData.less (d e : CanFrameData) : Bool := d.canId &&& canEffMask < e.canId &&& canEffMask

/-- The step on frames as values. -/
def FrameStep.write (t : Origins CanFrameData) : FrameStep → Option (Origins CanFrameData)
  | .construct x => some (t.put x {})
  | .assign x y => some (t.assign x y)
  | .swap x y => some (t.swap x y)
  | .destroy x => some (t.destroy x)
  | .change x op =>
    match t.objects x with
    | some v => (op.exec v.1).map fun e => if op.detaches v.1 then t.put x e else t
    | none => some t

def frameOrigins (program : List FrameStep) : Option (Origins CanFrameData) :=
  program.foldlM (fun t step => step.write t) Origins.empty

/-- Two objects got their content from one construction or one write of the program, by copies. -/
def SameWrite (program : List FrameStep) (x y : Nat) : Prop :=
  ∃ t v w, frameOrigins program = some t ∧ t.objects x = some v ∧ t.objects y = some w ∧ v.2 = w.2

/-- An operation that does not reach for the payload leaves it as it is. -/
theorem FrameOp.exec_of_not_detaches {op : FrameOp} {d : CanFrameData} (const : op.detaches d = false) :
    op.exec d = some d := by
  cases op with
  | setDataLength bytes =>
    simp only [FrameOp.exec, CanFrameData.setDataLength]
    simp only [FrameOp.detaches] at const
    split
    · rfl
    split
    · rfl
    split
    · rfl
    split
    · simp_all
    · rfl
  | setFdFrameFlags flags =>
    have other : d.frameType ≠ .fdFrame := by simpa [FrameOp.detaches] using const
    simp [FrameOp.exec, CanFrameData.setFdFrameFlags, other]
  | setData source len =>
    have nothing : (d.copyLength len).toNat = 0 := by
      have small : ¬0 < d.copyLength len := by simpa [FrameOp.detaches] using const
      omega
    rw [FrameOp.exec, CanFrameData.setData, nothing]
    rfl
  | _ => cases const

/-- The heap of a program follows its values step by step. -/
theorem FrameStep.tracks {h : Heap (Nat × CanFrameData)} {t : Origins CanFrameData} (tracks : Tracks h t)
    (step : FrameStep) : Option.Rel Tracks (step.exec h) (step.write t) := by
  cases step with
  | construct x => exact .some (tracks.construct x {})
  | assign x y => exact .some (tracks.assign x y)
  | swap x y => exact .some (tracks.swap x y)
  | destroy x => exact .some (tracks.destroy x)
  | change x op =>
    have value := tracks.values x
    rw [FrameStep.exec, FrameStep.write]
    cases at_x : t.objects x with
    | none =>
      rw [value, at_x]
      exact .some tracks
    | some v =>
      rw [value, at_x]
      change Option.Rel Tracks ((op.exec v.1).map _) ((op.exec v.1).map _)
      cases op.exec v.1 with
      | none => exact .none
      | some e =>
        refine .some ?_
        cases op.detaches v.1 with
        | true => exact tracks.modify at_x e
        | false => exact tracks

theorem frameHeap_concat (program : List FrameStep) (last : FrameStep) :
    frameHeap (program ++ [last]) = (frameHeap program).bind last.exec := by
  simp [frameHeap, List.foldlM_append]

theorem frameOrigins_concat (program : List FrameStep) (last : FrameStep) :
    frameOrigins (program ++ [last]) = (frameOrigins program).bind last.write := by
  simp [frameOrigins, List.foldlM_append]

theorem frameHeap_tracks (program : List FrameStep) :
    Option.Rel Tracks (frameHeap program) (frameOrigins program) := by
  induction program using List.reverseRecOn with
  | nil => exact .some Tracks.empty
  | append_singleton program last ih =>
    rw [frameHeap_concat, frameOrigins_concat]
    generalize frameHeap program = heap at ih
    generalize frameOrigins program = origins at ih
    cases ih with
    | none => exact .none
    | some tracks => exact last.tracks tracks

theorem sameWrite_iff {program : List FrameStep} {h : Heap (Nat × CanFrameData)} (ran : frameHeap program = some h)
    {x y : Nat} {v w : CanFrameData} (at_x : h.value x = some v) (at_y : h.value y = some w) :
    equalFrames h x y = true ↔ SameWrite program x y := by
  have related := frameHeap_tracks program
  rw [ran] at related
  cases history : frameOrigins program with
  | none => rw [history] at related; cases related
  | some t =>
    rw [history] at related
    obtain ⟨tracks⟩ := related
    have values_x := tracks.values x
    have values_y := tracks.values y
    rw [at_x] at values_x
    rw [at_y] at values_y
    obtain ⟨a, at_a, rfl⟩ := Option.map_eq_some_iff.mp values_x.symm
    obtain ⟨b, at_b, rfl⟩ := Option.map_eq_some_iff.mp values_y.symm
    rw [equalFrames, beq_iff_eq, tracks.shared x y a b at_a at_b]
    constructor
    · exact fun same => ⟨t, a, b, history, at_a, at_b, same⟩
    · rintro ⟨u, c, d, again, at_c, at_d, same⟩
      rw [history] at again
      cases again
      rw [at_a] at at_c
      rw [at_b] at at_d
      cases at_c
      cases at_d
      exact same

theorem eq_of_equalFrames {h : Heap (Nat × CanFrameData)} {x y : Nat} (equal : equalFrames h x y = true) :
    h.value x = h.value y := by
  rw [Heap.value, Heap.value, eq_of_beq equal]

/-- `==` tells equal contents exactly for frames whose contents differ or come from one write, and
never holds beside `>` or `<`. -/
theorem frames_equal_iff {program : List FrameStep} {h : Heap (Nat × CanFrameData)}
    (ran : frameHeap program = some h) {x y : Nat} {d e : CanFrameData} (at_x : h.value x = some d)
    (at_y : h.value y = some e) :
    ((equalFrames h x y = true ↔ d = e) ↔ d ≠ e ∨ SameWrite program x y) ∧
      (equalFrames h x y = true → d.greater e = false ∧ d.less e = false) := by
  have content : equalFrames h x y = true → d = e := by
    intro equal
    exact Option.some.inj (at_x.symm.trans ((eq_of_equalFrames equal).trans at_y))
  constructor
  · rw [← sameWrite_iff ran at_x at_y]
    tauto
  · intro equal
    rw [content equal]
    exact ⟨decide_eq_false (UInt32.lt_irrefl _), decide_eq_false (UInt32.lt_irrefl _)⟩

def copiesProgram : List FrameStep := [.construct 0, .assign 1 0, .change 0 (.setId 0x123), .assign 2 0]

/-- A copy taken after the last write. -/
theorem frames_equal_iff_copies : ∃ h, ∃ d : CanFrameData, frameHeap copiesProgram = some h ∧
    ((equalFrames h 2 0 = true ↔ d = d) ↔ d ≠ d ∨ SameWrite copiesProgram 2 0) ∧
      (equalFrames h 2 0 = true → d.greater d = false ∧ d.less d = false) :=
  ⟨_, { id := 0x123 }, rfl, @frames_equal_iff copiesProgram _ rfl 2 0 _ _ rfl rfl⟩

/-- A frame and what is decoded from its encoding. -/
theorem decoded_frame_differs :
    ∃ h d, frameHeap [.construct 0, .change 0 .toDataFrame, .construct 1,
        .change 1 (.read .bigEndian (putFrame .bigEndian ({} : CanFrameData).toDataFrame))] = some h ∧
      h.value 0 = some d ∧ h.value 1 = some d ∧ equalFrames h 0 1 = false :=
  ⟨_, _, rfl, rfl, rfl, rfl⟩

end CanSocket
