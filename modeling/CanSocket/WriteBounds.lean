import CanSocket.RawWrite

namespace CanSocket

/-- Nothing `writeToSocket` does with its block leaves it: neither the reserved bytes it looks at nor a range it
hands to `::write`, and its result is a failure or a number of bytes of the block. -/
structure StaysInside (fd : FlexibleDataRateFrames) (data : List UInt8) (r : WriteResult) : Prop where
  looked : ∀ offset ∈ r.looked, offset < data.length
  written : ∀ call ∈ r.calls, ∃ size, sizeAt fd data call.offset = some size ∧
    call.offset + size ≤ data.length ∧ call.bytes = (data.drop call.offset).take size
  ret : r.ret = -1 ∨ 0 ≤ r.ret ∧ r.ret ≤ data.length

/-- One pass of the loop with what it looks at and hands on: no frame is left, the loop ends at this frame, or
the kernel takes it as the loop counts. -/
inductive WriteTurn (fd : FlexibleDataRateFrames) (data : List UInt8) (answers : List WriteAnswer)
    (writtenBytes : Nat) : WriteResult → Prop
  | short : (data.length : Int) - writtenBytes < frameSize fd →
      WriteTurn fd data answers writtenBytes ⟨writtenBytes, [], [writtenBytes + 6, writtenBytes + 7], none⟩
  | ends (r : WriteResult) : ¬(data.length : Int) - writtenBytes < frameSize fd →
      ((answerAt answers 0).taken (offeredAt fd data writtenBytes)).length ≠ frameSize fd →
      r.looked = [writtenBytes + 6, writtenBytes + 7] →
      (∀ call ∈ r.calls, sizeAt fd data writtenBytes ≠ none ∧ call.offset = writtenBytes ∧
        call.bytes = offeredAt fd data writtenBytes) →
      r.ret = -1 ∨ r.ret = writtenBytes → WriteTurn fd data answers writtenBytes r
  | goesOn (answer : WriteAnswer) (rest : List WriteAnswer) : answers = answer :: rest →
      ¬(data.length : Int) - writtenBytes < frameSize fd → sizeAt fd data writtenBytes ≠ none →
      (answer.taken (offeredAt fd data writtenBytes)).length = frameSize fd →
      WriteTurn fd data answers writtenBytes
        { writeLoop fd data rest (writtenBytes + frameSize fd) with
          calls := ⟨writtenBytes, offeredAt fd data writtenBytes, answer⟩ ::
            (writeLoop fd data rest (writtenBytes + frameSize fd)).calls
          looked := [writtenBytes + 6, writtenBytes + 7] ++
            (writeLoop fd data rest (writtenBytes + frameSize fd)).looked }

theorem writeTurn (fd : FlexibleDataRateFrames) (data : List UInt8) (answers : List WriteAnswer)
    (writtenBytes : Nat) :
    WriteTurn fd data answers writtenBytes (writeLoop fd data answers writtenBytes) := by
  have positive := frameSize_pos fd
  by_cases room : (data.length : Int) - writtenBytes < frameSize fd
  · cases answers <;> simpa [writeLoop, room] using WriteTurn.short room
  cases hs : sizeAt fd data writtenBytes with
  | none =>
    have nothing : ((answerAt answers 0).taken (offeredAt fd data writtenBytes)).length ≠ frameSize fd := by
      have empty : offeredAt fd data writtenBytes = [] := by simp [offeredAt, hs]
      rw [WriteAnswer.taken_prefix, empty, List.take_nil, List.length_nil]
      omega
    cases answers <;> refine .ends _ room nothing ?_ ?_ ?_ <;> simp [writeLoop, room, hs]
  | some size =>
    have offered : offeredAt fd data writtenBytes = (data.drop writtenBytes).take size := by
      simp [offeredAt, hs]
    cases answers with
    | nil =>
      have blocked : ((answerAt [] 0).taken (offeredAt fd data writtenBytes)).length ≠ frameSize fd := by
        simpa [answerAt, WriteAnswer.taken] using Nat.ne_of_lt positive
      refine .ends _ room blocked ?_ ?_ ?_ <;> simp [writeLoop, room, hs, offered]
    | cons answer answers =>
      by_cases hf : ∃ e, answer = .fail e
      · obtain ⟨e, rfl⟩ := hf
        have refused : ((answerAt (.fail e :: answers) 0).taken (offeredAt fd data writtenBytes)).length ≠
            frameSize fd := by
          simpa [answerAt, WriteAnswer.taken] using Nat.ne_of_lt positive
        by_cases he : e = .ENOBUFS <;> refine .ends _ room refused ?_ ?_ ?_ <;>
          simp [writeLoop, room, hs, offered, he]
      · have accepts : ∀ e, answer ≠ .fail e := fun e h => hf ⟨e, h⟩
        rw [writeLoop_taken room hs accepts]
        dsimp only
        rw [← offered]
        by_cases whole : (answer.taken (offeredAt fd data writtenBytes)).length = frameSize fd
        · rw [if_neg (by omega), if_neg (by simpa using whole), whole]
          exact .goesOn answer answers rfl room (by simp [hs]) whole
        · by_cases hz : (answer.taken (offeredAt fd data writtenBytes)).length = 0
          · rw [if_pos hz]
            refine .ends _ room whole rfl ?_ ?_ <;> simp [hs]
          · rw [if_neg hz, if_pos whole]
            refine .ends _ room whole rfl ?_ ?_ <;> simp [hs]

/-- In pass `k`, counted from an offset, the kernel takes as many bytes as the loop counts for a frame. -/
def GoesOnFrom (fd : FlexibleDataRateFrames) (data : List UInt8) (answers : List WriteAnswer)
    (writtenBytes k : Nat) : Prop :=
  ((answerAt answers k).taken (offeredAt fd data (writtenBytes + k * frameSize fd))).length = frameSize fd

/-- Where the kernel takes every whole frame of the block, eight bytes are left behind them. -/
def HeaderLeft (fd : FlexibleDataRateFrames) (data : List UInt8) (answers : List WriteAnswer)
    (writtenBytes : Nat) : Prop :=
  (∀ k, writtenBytes + (k + 1) * frameSize fd ≤ data.length → GoesOnFrom fd data answers writtenBytes k) →
    8 ≤ (data.length - writtenBytes) % frameSize fd

section

variable {fd : FlexibleDataRateFrames} {data : List UInt8} {answers : List WriteAnswer} {writtenBytes : Nat}

theorem headerLeft_short (inside : writtenBytes ≤ data.length)
    (room : (data.length : Int) - writtenBytes < frameSize fd) :
    HeaderLeft fd data answers writtenBytes ↔ writtenBytes + 7 < data.length := by
  have rest : (data.length - writtenBytes) % frameSize fd = data.length - writtenBytes :=
    Nat.mod_eq_of_lt (by omega)
  have none : ∀ k, ¬writtenBytes + (k + 1) * frameSize fd ≤ data.length := by
    intro k
    have : frameSize fd ≤ (k + 1) * frameSize fd := Nat.le_mul_of_pos_left _ (Nat.succ_pos k)
    omega
  rw [HeaderLeft, rest]
  constructor
  · intro left
    have := left fun k whole => absurd whole (none k)
    omega
  · intro left _
    omega

theorem headerLeft_ends (room : ¬(data.length : Int) - writtenBytes < frameSize fd)
    (stops : ((answerAt answers 0).taken (offeredAt fd data writtenBytes)).length ≠ frameSize fd) :
    HeaderLeft fd data answers writtenBytes := by
  intro all
  have goes := all 0 (by omega)
  rw [GoesOnFrom, Nat.zero_mul, Nat.add_zero] at goes
  exact absurd goes stops

theorem headerLeft_goesOn {answer : WriteAnswer} {rest : List WriteAnswer}
    (room : ¬(data.length : Int) - writtenBytes < frameSize fd)
    (whole : (answer.taken (offeredAt fd data writtenBytes)).length = frameSize fd) :
    HeaderLeft fd data (answer :: rest) writtenBytes ↔
      HeaderLeft fd data rest (writtenBytes + frameSize fd) := by
  have left : (data.length - writtenBytes) % frameSize fd =
      (data.length - (writtenBytes + frameSize fd)) % frameSize fd := by
    rw [Nat.mod_eq_sub_mod (by omega), Nat.sub_sub]
  have shift : ∀ k, writtenBytes + (k + 1) * frameSize fd = writtenBytes + frameSize fd + k * frameSize fd := by
    intro k
    rw [Nat.succ_mul]
    omega
  have later : ∀ k, GoesOnFrom fd data (answer :: rest) writtenBytes (k + 1) ↔
      GoesOnFrom fd data rest (writtenBytes + frameSize fd) k := by
    intro k
    rw [GoesOnFrom, GoesOnFrom, shift]
    rfl
  have first : GoesOnFrom fd data (answer :: rest) writtenBytes 0 := by
    rw [GoesOnFrom, Nat.zero_mul, Nat.add_zero]
    exact whole
  rw [HeaderLeft, HeaderLeft, left]
  constructor
  · intro h all
    refine h fun k inside => ?_
    cases k with
    | zero => exact first
    | succ k => exact (later k).mpr (all k (by rw [← shift]; exact inside))
  · intro h all
    refine h fun k inside => ?_
    exact (later k).mp (all (k + 1) (by rw [shift]; exact inside))

/-- What the loop looks at is inside the block exactly when its last look at a header is. -/
theorem writeLoop_looked_iff (inside : writtenBytes ≤ data.length) :
    (∀ offset ∈ (writeLoop fd data answers writtenBytes).looked, offset < data.length) ↔
      HeaderLeft fd data answers writtenBytes := by
  have header : canMtu ≤ frameSize fd := canMtu_le_frameSize fd
  have sixteen : canMtu = 16 := rfl
  have here : ∀ w, (∀ offset ∈ [w + 6, w + 7], offset < data.length) ↔ w + 7 < data.length := by
    intro w
    simp only [List.mem_cons, List.not_mem_nil, or_false, forall_eq_or_imp, forall_eq]
    omega
  refine writeLoop_by_frames (P := fun answers w r =>
    (∀ offset ∈ r.looked, offset < data.length) ↔ HeaderLeft fd data answers w) ?_ inside
  intro answers w within later
  have turn := writeTurn fd data answers w
  generalize writeLoop fd data answers w = r at turn ⊢
  cases turn with
  | short room => exact (here w).trans (headerLeft_short within room).symm
  | ends r room stops looked _ _ =>
    rw [looked]
    exact iff_of_true ((here w).mpr (by omega)) (headerLeft_ends room stops)
  | goesOn answer rest eq room _ whole =>
    subst eq
    rw [headerLeft_goesOn room whole, ← later answer rest rfl (by omega), List.forall_mem_append]
    exact and_iff_right ((here w).mpr (by omega))

/-- Every range handed to `::write` is a frame of the block. -/
theorem writeLoop_written (inside : writtenBytes ≤ data.length) :
    ∀ call ∈ (writeLoop fd data answers writtenBytes).calls, ∃ size, sizeAt fd data call.offset = some size ∧
      call.offset + size ≤ data.length ∧ call.bytes = (data.drop call.offset).take size := by
  have offers : ∀ w : Nat, ¬(data.length : Int) - w < frameSize fd → sizeAt fd data w ≠ none →
      ∃ size, sizeAt fd data w = some size ∧ w + size ≤ data.length ∧
        offeredAt fd data w = (data.drop w).take size := by
    intro w room known
    obtain ⟨size, hs⟩ := Option.ne_none_iff_exists'.mp known
    have bound := (bytesToWrite_le hs).2
    exact ⟨size, hs, by omega, by rw [offeredAt, hs, Option.getD_some]⟩
  refine writeLoop_by_frames (P := fun _ _ r => ∀ call ∈ r.calls, ∃ size, sizeAt fd data call.offset = some size ∧
    call.offset + size ≤ data.length ∧ call.bytes = (data.drop call.offset).take size) ?_ inside
  intro answers w within later
  have turn := writeTurn fd data answers w
  generalize writeLoop fd data answers w = r at turn ⊢
  cases turn with
  | short => simp
  | ends r room _ _ calls _ =>
    intro call mem
    obtain ⟨known, offset, bytes⟩ := calls call mem
    rw [offset, bytes]
    exact offers w room known
  | goesOn answer rest eq room known _ =>
    rw [List.forall_mem_cons]
    exact ⟨offers w room known, later answer rest eq (by omega)⟩

theorem writeLoop_ret (inside : writtenBytes ≤ data.length) :
    (writeLoop fd data answers writtenBytes).ret = -1 ∨
      writtenBytes ≤ (writeLoop fd data answers writtenBytes).ret ∧
        (writeLoop fd data answers writtenBytes).ret ≤ data.length := by
  refine writeLoop_by_frames (P := fun _ w r => r.ret = -1 ∨ (w : Int) ≤ r.ret ∧ r.ret ≤ data.length) ?_ inside
  intro answers w within later
  have turn := writeTurn fd data answers w
  generalize writeLoop fd data answers w = r at turn ⊢
  cases turn with
  | short => exact Or.inr ⟨Int.le_refl _, by simpa using within⟩
  | ends r _ _ _ _ ret => omega
  | goesOn answer rest eq room _ _ =>
    have after := later answer rest eq (by omega)
    dsimp only
    omega

end

/-- The loop stays inside a block exactly when it does not come to its end with less than a header left: after
the whole frames, if the kernel takes them all, eight bytes follow. -/
theorem write_stays_inside_iff (fd : FlexibleDataRateFrames) (data : List UInt8) (answers : List WriteAnswer) :
    StaysInside fd data (rawWriteToSocket fd data answers) ↔
      ((∀ k, (k + 1) * frameSize fd ≤ data.length → GoesOn fd data answers k) →
        8 ≤ data.length % frameSize fd) := by
  have start : HeaderLeft fd data answers 0 ↔
      ((∀ k, (k + 1) * frameSize fd ≤ data.length → GoesOn fd data answers k) →
        8 ≤ data.length % frameSize fd) := by
    simp only [HeaderLeft, GoesOnFrom, GoesOn, Nat.zero_add, Nat.sub_zero]
  rw [← start, ← writeLoop_looked_iff (Nat.zero_le _)]
  constructor
  · intro h
    exact h.looked
  · intro looked
    exact ⟨looked, writeLoop_written (Nat.zero_le _), writeLoop_ret (Nat.zero_le _)⟩

/-- A classic frame that the kernel takes whole, and a block without a byte. -/
theorem write_leaves_block :
    let block : List UInt8 := [0x23, 1, 0, 0, 8, 0, 8, 16, 1, 2, 3, 4, 5, 6, 7, 8]
    (rawWriteToSocket .disabledFdFrames block [.all]).looked = [6, 7, 22, 23] ∧
      (rawWriteToSocket .disabledFdFrames block [.all]).ret = 16 ∧
      ¬StaysInside .disabledFdFrames block (rawWriteToSocket .disabledFdFrames block [.all]) ∧
      ¬StaysInside .enabledFdFrames [] (rawWriteToSocket .enabledFdFrames [] []) := by
  refine ⟨by decide, by decide, fun inside => ?_, fun inside => ?_⟩
  · exact absurd (inside.looked 22 (by decide)) (by decide)
  · exact absurd (inside.looked 6 (by decide)) (by decide)

end CanSocket
