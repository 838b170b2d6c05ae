import CanSocket.EncodedWrite
import CanSocket.TransferSteps

namespace CanSocket

open Endian

/-- The block holds a frame of the mode's size, and so is each one the loop comes to in it. -/
def BlockOfFrames (fd : FlexibleDataRateFrames) (block : List UInt8) : Prop :=
  frameSize fd ≤ block.length ∧
    ∀ k, (k + 1) * frameSize fd ≤ block.length → sizeAt fd block (k * frameSize fd) = some (frameSize fd)

variable {fd : FlexibleDataRateFrames} {order : ByteOrder}

theorem putFrame_length_le {d : CanFrameData} (h : d.isValid = true)
    (mode : fd ≠ .enabledFdFrames → d.isFdFrame = false) : (putFrame order d).length ≤ frameSize fd := by
  have size := sizeOnWire_eq_length order h mode
  rw [← bytesToWrite_res fd h] at size
  exact (bytesToWrite_le size).2

/-- The front part of encoded frames starts with the first of them as soon as it has its size. -/
theorem take_putFrame {d : CanFrameData} {rest : List UInt8} {n : Nat} (room : (putFrame order d).length ≤ n) :
    (putFrame order d ++ rest).take n = putFrame order d ++ rest.take (n - (putFrame order d).length) := by
  rw [List.take_append, List.take_of_length_le room]

/-- From this place on every frame that the loop would count has the size it counts. -/
def CountsRight (fd : FlexibleDataRateFrames) (data : List UInt8) (offset n : Nat) : Prop :=
  ∀ k, (k + 1) * frameSize fd ≤ n → sizeAt fd data (offset + k * frameSize fd) = some (frameSize fd)

theorem countsRight_short {data : List UInt8} {offset n : Nat} (short : n < frameSize fd) :
    CountsRight fd data offset n := by
  intro k inside
  have : frameSize fd ≤ (k + 1) * frameSize fd := Nat.le_mul_of_pos_left _ (Nat.succ_pos k)
  omega

theorem countsRight_next {data : List UInt8} {offset n : Nat} (room : frameSize fd ≤ n)
    (here : sizeAt fd data offset = some (frameSize fd)) :
    CountsRight fd data offset n ↔ CountsRight fd data (offset + frameSize fd) (n - frameSize fd) := by
  constructor
  · intro counts k inside
    have place := counts (k + 1) (by rw [Nat.succ_mul]; omega)
    rwa [Nat.succ_mul, Nat.add_comm (k * frameSize fd), ← Nat.add_assoc] at place
  · intro counts k inside
    cases k with
    | zero => simpa using here
    | succ k =>
      have place := counts k (by rw [Nat.succ_mul] at inside; omega)
      rwa [Nat.succ_mul, Nat.add_comm (k * frameSize fd), ← Nat.add_assoc]

theorem writeLoop_short {data : List UInt8} (answers : List WriteAnswer) {writtenBytes : Nat}
    (short : data.length < writtenBytes + frameSize fd) :
    (writeLoop fd data answers writtenBytes).ret = writtenBytes := by
  have left : (data.length : Int) - writtenBytes < frameSize fd := by omega
  cases answers <;> simp [writeLoop, left]

/-- What the loop makes of a block that starts with encoded frames and ends anywhere: it succeeds
with the whole frames it got to, unless it comes to one of another size than it counts. -/
theorem writeLoop_block {frames : List CanFrameData} (valid : ∀ d ∈ frames, d.isValid = true)
    (mode : fd ≠ .enabledFdFrames → ∀ d ∈ frames, d.isFdFrame = false)
    {answers : List WriteAnswer} (accepts : ∀ a ∈ answers, a = .all)
    (enough : frames.length ≤ answers.length) (before : List UInt8) {n : Nat}
    (inside : n ≤ (frames.flatMap (putFrame order)).length) :
    let data := before ++ (frames.flatMap (putFrame order)).take n
    let r := writeLoop fd data answers before.length
    (0 ≤ r.ret ↔ CountsRight fd data before.length n) ∧
      (0 ≤ r.ret → ∃ sent rest, frames = sent ++ rest ∧
        r.ret = before.length + (sent.flatMap (putFrame order)).length ∧ (frameSize fd ≤ n ↔ sent ≠ [])) := by
  have positive := frameSize_pos fd
  induction frames generalizing answers before n with
  | nil =>
    have empty : n = 0 := by simpa using inside
    intro data r
    have ended : r.ret = before.length := writeLoop_short answers (by simp [data, positive])
    refine ⟨iff_of_true (by omega) (countsRight_short (by omega)), fun _ => ⟨[], [], rfl, ?_, ?_⟩⟩
    · simpa using ended
    · simp only [ne_eq, not_true_eq_false, iff_false]
      omega
  | cons d frames ih =>
    have hv := valid d (by simp)
    have hm : fd ≠ .enabledFdFrames → d.isFdFrame = false := fun hn => mode hn d (by simp)
    have fits : (putFrame order d).length ≤ frameSize fd := putFrame_length_le hv hm
    intro data r
    have pass : WritePass fd data answers before.length r := writePass _ _ _ _
    have len : data.length = before.length + n := by
      simp only [data, List.length_append, List.length_take]
      omega
    by_cases room : frameSize fd ≤ n
    · have split : data = before ++ (putFrame order d ++
          (frames.flatMap (putFrame order)).take (n - (putFrame order d).length)) := by
        simp only [data, List.flatMap_cons]
        rw [take_putFrame (by omega)]
      have here := sizeAt_putFrame fd order hv before
        ((frames.flatMap (putFrame order)).take (n - (putFrame order d).length))
      rw [← split, sizeOnWire_eq_length order hv hm] at here
      have offered := offeredAt_putFrame order hv hm before
        ((frames.flatMap (putFrame order)).take (n - (putFrame order d).length))
      rw [← split] at offered
      obtain ⟨answer, answers, rfl⟩ := List.exists_cons_of_length_pos (l := answers) (by
        simp only [List.length_cons] at enough
        omega)
      have all : answer = .all := accepts answer (by simp)
      subst all
      cases pass with
      | short short _ _ => omega
      | malformed _ none _ _ => rw [here] at none; cases none
      | refused e _ _ refused _ _ => cases refused
      | nothing _ _ _ empty _ _ =>
        have none : putFrame order d = [] := offered.symm.trans empty
        have := putFrame_length_pos order hv
        rw [none] at this
        exact absurd this (by decide)
      | odd _ _ _ size ret _ =>
        have other : (putFrame order d).length ≠ frameSize fd := by rwa [← offered]
        refine ⟨iff_of_false (by omega) fun counts => other ?_, fun ok => by omega⟩
        have first := counts 0 (by omega)
        rw [Nat.zero_mul, Nat.add_zero, here] at first
        exact Option.some.inj first
      | next _ rest eq _ _ _ whole ret _ =>
        cases eq
        have size : (putFrame order d).length = frameSize fd := by rw [← offered]; exact whole
        have step := @ih (fun x hx => valid x (by simp [hx])) (fun hn x hx => mode hn x (by simp [hx]))
          answers (fun a ha => accepts a (by simp [ha])) (by simpa using enough) (before ++ putFrame order d)
          (n - frameSize fd) (by simp only [List.flatMap_cons, List.length_append] at inside; omega)
        rw [size] at split here
        rw [List.append_assoc, ← split, List.length_append, size] at step
        rw [countsRight_next room here, ret]
        refine ⟨step.1, fun ok => ?_⟩
        obtain ⟨sent, later, rfl, reached, _⟩ := step.2 ok
        refine ⟨d :: sent, later, rfl, ?_, iff_of_true room (by simp)⟩
        rw [reached, List.flatMap_cons, List.length_append, size]
        omega
    · have ended : r.ret = before.length := writeLoop_short answers (by omega)
      refine ⟨iff_of_true (by omega) (countsRight_short (by omega)), fun _ => ⟨[], d :: frames, rfl, ?_, ?_⟩⟩
      · simpa using ended
      · simpa using room

theorem blockOfFrames_iff {block : List UInt8} :
    BlockOfFrames fd block ↔ frameSize fd ≤ block.length ∧ CountsRight fd block 0 block.length := by
  simp [BlockOfFrames, CountsRight]

namespace Socket

/-- One `flush`, which is one `completeAsyncWrite`, with no slot connected. -/
def flushed (env : WriteEnv) (s : Socket) : Socket := (s.completeAsyncWrite Slot.idle env).2

/-- A flush frees what `writeToSocket` reports, and nothing when it fails. -/
theorem flushed_eq (env : WriteEnv) (s : Socket) :
    (s.flushed env).protocol = s.protocol ∧ (s.flushed env).descriptor = s.descriptor ∧
      (s.flushed env).writeBuffer = s.writeBuffer.drop
        (s.protocol.writeToSocket (s.nextDataBlock env) (s.writeAnswers env.answers)).ret.toNat := by
  have step := completeAsyncWrite_step env s
  have result : (s.announced Slot.idle).writeResult env =
      s.protocol.writeToSocket (s.nextDataBlock env) (s.writeAnswers env.answers) := by
    rw [s.announced_idle]
    rfl
  unfold flushed
  generalize s.completeAsyncWrite Slot.idle env = r at step
  cases step with
  | drained empty =>
    obtain ⟨made, off⟩ := (s.announced Slot.idle).setWrite_eq false
    rw [off, s.announced_idle]
    exact ⟨rfl, rfl, by simp [empty]⟩
  | wrote r waiting step =>
    rw [← result]
    cases step with
    | failed failed =>
      rw [Int.toNat_of_nonpos (by omega), s.announced_idle]
      exact ⟨rfl, rfl, rfl⟩
    | sent n notifier ret bound on =>
      rw [ret, s.announced_idle]
      exact ⟨rfl, rfl, rfl⟩

end Socket

/-- A step that finds something queued takes at least one whole frame off the front. -/
def RemovesFrames (order : ByteOrder) (s t : Socket) : Prop :=
  s.writeBuffer ≠ [] → ∃ sent, sent ≠ [] ∧ (∀ d ∈ sent, d.isValid = true) ∧
    s.writeBuffer = sent.flatMap (putFrame order) ++ t.writeBuffer

/-- The connection of a raw socket with these encoded frames in its write buffer. -/
structure FramesQueued (order : ByteOrder) (fd : FlexibleDataRateFrames) (frames : List CanFrameData)
    (s : Socket) : Prop where
  raw : ∃ options, s.protocol = .raw options ∧ options.flexibleDataRateFrames = fd
  connected : s.descriptor ≠ -1
  queued : s.writeBuffer = frames.flatMap (putFrame order)
  valid : ∀ d ∈ frames, d.isValid = true
  mode : fd ≠ .enabledFdFrames → ∀ d ∈ frames, d.isFdFrame = false

/-- The kernel takes every whole frame that one flush of these frames can offer. -/
def Accepting (frames : List CanFrameData) (env : WriteEnv) : Prop :=
  (∀ a ∈ env.answers, a = .all) ∧ frames.length ≤ env.answers.length

theorem encoded_ne_nil {frames : List CanFrameData} (valid : ∀ d ∈ frames, d.isValid = true) :
    frames.flatMap (putFrame order) ≠ [] ↔ frames ≠ [] := by
  cases frames with
  | nil => simp
  | cons d frames =>
    have positive := putFrame_length_pos order (valid d (by simp))
    refine iff_of_true (fun empty => ?_) (by simp)
    have none : putFrame order d = [] := (List.append_eq_nil_iff.mp empty).1
    rw [none] at positive
    exact absurd positive (by decide)

theorem not_removesFrames {s t : Socket} (waiting : s.writeBuffer ≠ []) (same : t.writeBuffer = s.writeBuffer) :
    ¬RemovesFrames order s t := by
  intro removes
  obtain ⟨sent, some, valid, eq⟩ := removes waiting
  rw [same] at eq
  exact (encoded_ne_nil valid).mpr some (List.self_eq_append_left.mp eq)

/-- What `writeToSocket` makes of the block of a flush that the kernel accepts. -/
theorem flush_result {frames : List CanFrameData} {env : WriteEnv} {s : Socket}
    (h : FramesQueued order fd frames s) (accepting : Accepting frames env) :
    let r := s.protocol.writeToSocket (s.nextDataBlock env) (s.writeAnswers env.answers)
    (0 ≤ r.ret ↔ CountsRight fd (s.nextDataBlock env) 0 (s.nextDataBlock env).length) ∧
      (0 ≤ r.ret → ∃ sent rest, frames = sent ++ rest ∧ r.ret = (sent.flatMap (putFrame order)).length ∧
        (frameSize fd ≤ (s.nextDataBlock env).length ↔ sent ≠ [])) := by
  obtain ⟨options, protocol, mode⟩ := h.raw
  have inside : s.nextDataBlockSize env ≤ (frames.flatMap (putFrame order)).length := by
    rw [← h.queued]
    exact Nat.min_le_right _ _
  have block : s.nextDataBlock env = (frames.flatMap (putFrame order)).take (s.nextDataBlockSize env) := by
    rw [← h.queued]
    rfl
  have len : (s.nextDataBlock env).length = s.nextDataBlockSize env := by
    rw [block, List.length_take]
    omega
  have result : s.protocol.writeToSocket (s.nextDataBlock env) (s.writeAnswers env.answers) =
      writeLoop fd (s.nextDataBlock env) env.answers 0 := by
    rw [protocol, Socket.writeAnswers, if_neg h.connected]
    exact congrArg (fun fd => rawWriteToSocket fd _ _) mode
  have loop := writeLoop_block h.valid h.mode accepting.1 accepting.2 [] inside
  simp only [List.nil_append, List.length_nil] at loop
  rw [← block, ← len, ← result] at loop
  simpa using loop

theorem FramesQueued.flushed {sent rest : List CanFrameData} {env : WriteEnv} {s : Socket}
    (h : FramesQueued order fd (sent ++ rest) s)
    (left : (s.flushed env).writeBuffer = rest.flatMap (putFrame order)) :
    FramesQueued order fd rest (s.flushed env) := by
  obtain ⟨protocol, descriptor, _⟩ := s.flushed_eq env
  refine ⟨?_, ?_, left, ?_, ?_⟩
  · rw [protocol]
    exact h.raw
  · rw [descriptor]
    exact h.connected
  · exact fun d hd => h.valid d (by simp [hd])
  · exact fun off d hd => h.mode off d (by simp [hd])

/-- A flush whose block is not one of whole frames leaves the buffer as it is. -/
theorem flushed_stuck {frames : List CanFrameData} {env : WriteEnv} {s : Socket}
    (h : FramesQueued order fd frames s) (accepting : Accepting frames env)
    (other : ¬BlockOfFrames fd (s.nextDataBlock env)) : (s.flushed env).writeBuffer = s.writeBuffer := by
  obtain ⟨_, _, left⟩ := s.flushed_eq env
  obtain ⟨counts, sends⟩ := flush_result h accepting
  rw [blockOfFrames_iff] at other
  by_cases ok : 0 ≤ (s.protocol.writeToSocket (s.nextDataBlock env) (s.writeAnswers env.answers)).ret
  · obtain ⟨sent, rest, _, ret, whole⟩ := sends ok
    have none : sent = [] := by
      by_contra some
      exact other ⟨whole.mpr some, counts.mp ok⟩
    rw [left, ret, none]
    rfl
  · rw [left, Int.toNat_of_nonpos (by omega)]
    rfl

/-- A flush whose block, if anything is queued, is one of whole frames leaves fewer of them. -/
theorem flushed_fewer {frames : List CanFrameData} {env : WriteEnv} {s : Socket}
    (h : FramesQueued order fd frames s) (accepting : Accepting frames env)
    (block : s.writeBuffer ≠ [] → BlockOfFrames fd (s.nextDataBlock env)) :
    ∃ sent rest, frames = sent ++ rest ∧ (frames ≠ [] → sent ≠ []) ∧
      FramesQueued order fd rest (s.flushed env) := by
  obtain ⟨_, _, left⟩ := s.flushed_eq env
  by_cases empty : s.writeBuffer = []
  · have stays : FramesQueued order fd ([] ++ frames) s := h
    refine ⟨[], frames, rfl, fun some => ?_, stays.flushed ?_⟩
    · rw [h.queued] at empty
      exact absurd empty ((encoded_ne_nil h.valid).mpr some)
    · rw [left, ← h.queued, empty, List.drop_nil]
  · obtain ⟨counts, sends⟩ := flush_result h accepting
    obtain ⟨size, right⟩ := blockOfFrames_iff.mp (block empty)
    obtain ⟨sent, rest, rfl, ret, whole⟩ := sends (counts.mpr right)
    refine ⟨sent, rest, rfl, fun _ => whole.mp size, h.flushed ?_⟩
    rw [left, ret, h.queued, Int.toNat_natCast, List.flatMap_append, List.drop_left]

theorem Accepting.fewer {sent rest : List CanFrameData} {env : WriteEnv} (h : Accepting (sent ++ rest) env) :
    Accepting rest env := by
  refine ⟨h.1, ?_⟩
  have := h.2
  rw [List.length_append] at this
  omega

/-- Every flush of a run finds a block of whole frames in a buffer that holds something. -/
def BlocksOfFrames (fd : FlexibleDataRateFrames) (envs : List WriteEnv) (s : Socket) : Prop :=
  CallRun.Guarded Socket.flushed
    (fun env t => t.writeBuffer ≠ [] → BlockOfFrames fd (t.nextDataBlock env)) envs s

theorem flushes_remove_iff {frames : List CanFrameData} {envs : List WriteEnv} {s : Socket}
    (h : FramesQueued order fd frames s) (accepting : ∀ env ∈ envs, Accepting frames env) :
    CallRun.Guarded Socket.flushed (fun env t => RemovesFrames order t (t.flushed env)) envs s ↔
      BlocksOfFrames fd envs s := by
  induction envs generalizing frames s with
  | nil => exact Iff.rfl
  | cons env envs ih =>
    have now := accepting env (by simp)
    by_cases block : s.writeBuffer ≠ [] → BlockOfFrames fd (s.nextDataBlock env)
    · obtain ⟨sent, rest, rfl, some, left⟩ := flushed_fewer h now block
      have removes : RemovesFrames order s (s.flushed env) := by
        intro waiting
        rw [h.queued] at waiting
        refine ⟨sent, some ((encoded_ne_nil h.valid).mp waiting), fun d hd => h.valid d (by simp [hd]), ?_⟩
        rw [h.queued, left.queued, List.flatMap_append]
      have later := ih left fun e he => (accepting e (by simp [he])).fewer
      exact and_congr (iff_of_true removes block) later
    · refine iff_of_false (fun removed => ?_) (fun guarded => block guarded.1)
      obtain ⟨waiting, other⟩ := Classical.not_imp.mp block
      exact not_removesFrames waiting (flushed_stuck h now other) removed.1

theorem flushes_empty {frames : List CanFrameData} {envs : List WriteEnv} {s : Socket}
    (h : FramesQueued order fd frames s) (accepting : ∀ env ∈ envs, Accepting frames env)
    (blocks : BlocksOfFrames fd envs s) (enough : frames.length ≤ envs.length) :
    (CallRun.run Socket.flushed envs s).writeBuffer = [] := by
  induction envs generalizing frames s with
  | nil =>
    have none : frames = [] := List.length_eq_zero_iff.mp (Nat.le_zero.mp enough)
    simp [h.queued, none]
  | cons env envs ih =>
    obtain ⟨sent, rest, rfl, some, left⟩ := flushed_fewer h (accepting env (by simp)) blocks.1
    refine ih left (fun e he => (accepting e (by simp [he])).fewer) blocks.2 ?_
    by_cases empty : sent ++ rest = []
    · rw [(List.append_eq_nil_iff.mp empty).2]
      exact Nat.zero_le _
    · have := List.length_pos_iff.mpr (some empty)
      simp only [List.length_append, List.length_cons] at enough
      omega

/-- Flushing a buffer of encoded frames takes whole frames off it every time, and so empties it, in
exactly the runs in which every block of a buffer that holds something is one of whole frames. -/
theorem write_buffer_drains {frames : List CanFrameData} {envs : List WriteEnv} {s : Socket}
    (h : FramesQueued order fd frames s) (accepting : ∀ env ∈ envs, Accepting frames env) :
    (CallRun.Guarded Socket.flushed (fun env t => RemovesFrames order t (t.flushed env)) envs s ∧
        (frames.length ≤ envs.length → (CallRun.run Socket.flushed envs s).writeBuffer = [])) ↔
      BlocksOfFrames fd envs s := by
  have removes := flushes_remove_iff h accepting
  exact ⟨fun drains => removes.mp drains.1, fun blocks => ⟨removes.mpr blocks, flushes_empty h accepting blocks⟩⟩

/-- A connected raw socket in this mode after the frames were written to it. -/
def Socket.holding (fd : FlexibleDataRateFrames) (frames : List CanFrameData) : Socket :=
  { (Socket.connected (.raw {}) 3).step (.write (frames.flatMap (putFrame .littleEndian))) with
    protocol := .raw { flexibleDataRateFrames := fd } }

theorem framesQueued_classic : FramesQueued .littleEndian .disabledFdFrames [classicSample, classicSample]
    (.holding .disabledFdFrames [classicSample, classicSample]) :=
  ⟨⟨_, rfl, rfl⟩, by decide, by decide, by decide, by decide⟩

theorem framesQueued_fd : FramesQueued .littleEndian .enabledFdFrames [classicSample]
    (.holding .enabledFdFrames [classicSample]) :=
  ⟨⟨_, rfl, rfl⟩, by decide, by decide, by decide, by decide⟩

theorem write_buffer_drains_classic :
    (CallRun.Guarded Socket.flushed (fun env t => RemovesFrames .littleEndian t (t.flushed env))
          [⟨32, [.all, .all]⟩, ⟨32, [.all, .all]⟩] (.holding .disabledFdFrames [classicSample, classicSample]) ∧
        (2 ≤ 2 → (CallRun.run Socket.flushed [⟨32, [.all, .all]⟩, ⟨32, [.all, .all]⟩]
          (.holding .disabledFdFrames [classicSample, classicSample])).writeBuffer = [])) ↔
      BlocksOfFrames .disabledFdFrames [⟨32, [.all, .all]⟩, ⟨32, [.all, .all]⟩]
        (.holding .disabledFdFrames [classicSample, classicSample]) :=
  write_buffer_drains framesQueued_classic (by
    intro env mem
    have same : env = ⟨32, [.all, .all]⟩ := by simpa using mem
    rw [same]
    exact ⟨by decide, by decide⟩)

/-- A block that ends inside its first frame, or in FD mode a classic frame that is alone, stays
where it is, with no error and the write notifier on. -/
theorem write_buffer_drains_fails :
    let s := Socket.holding .disabledFdFrames [classicSample, classicSample]
    let t := Socket.holding .enabledFdFrames [classicSample]
    (FramesQueued .littleEndian .disabledFdFrames [classicSample, classicSample] s ∧
      ¬RemovesFrames .littleEndian s (s.flushed ⟨8, [.all, .all]⟩) ∧
      (s.flushed ⟨8, [.all, .all]⟩).isWriteNotificationEnabled = true ∧
      (s.flushed ⟨8, [.all, .all]⟩).error = .noError) ∧
    FramesQueued .littleEndian .enabledFdFrames [classicSample] t ∧
      ¬RemovesFrames .littleEndian t (t.flushed ⟨16, [.all]⟩) ∧
      (t.flushed ⟨16, [.all]⟩).isWriteNotificationEnabled = true ∧
      (t.flushed ⟨16, [.all]⟩).error = .noError :=
  ⟨⟨framesQueued_classic, not_removesFrames (by decide) (by decide), by decide, by decide⟩,
    framesQueued_fd, not_removesFrames (by decide) (by decide), by decide, by decide⟩

end CanSocket
