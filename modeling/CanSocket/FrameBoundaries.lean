import CanSocket.BusFrames
import CanSocket.ReceiveAll

namespace CanSocket

open Endian StreamCodec

variable {options : CanRawOptions}

/-- What a descriptor answers while no read fails: a frame, or nothing at the moment. -/
def ReadAnswer.Undisturbed (fd : FlexibleDataRateFrames) (a : ReadAnswer) : Prop :=
  a.OnBus fd ∧ ∀ e, a = .fail e → e = .EAGAIN

def FrameOfMode (fd : FlexibleDataRateFrames) (frame : List UInt8) : Prop :=
  frame.length = canMtu ∨ fd = .enabledFdFrames ∧ frame.length = canfdMtu

/-- The kernel has only been asked for bytes there was space for, and has handed out frames. -/
structure WholeFrames (fd : FlexibleDataRateFrames) (s : Socket) : Prop where
  clean : CleanReads fd s.trace
  inside : ∀ descriptor space call, Event.read descriptor space call ∈ s.trace →
    (call.offset + call.length : Int) ≤ space
  frames : ∀ frame ∈ kernelFrames s.trace, FrameOfMode fd frame
  untouched : userBytes s.trace = []

theorem readBatchClean_undisturbed {fd : FlexibleDataRateFrames} {answers : List ReadAnswer}
    (bus : ∀ a ∈ answers, a.Undisturbed fd) (bytesToRead : Int) (s : Socket) :
    ReadBatchClean fd bytesToRead (s.readAnswers answers) := by
  intro frames e rest eq he hframes nonempty
  unfold Socket.readAnswers at eq
  split at eq
  next =>
    cases frames with
    | nil => exact absurd rfl nonempty
    | cons a frames => simp at eq
  next =>
    have mem : ReadAnswer.fail e ∈ answers := by simp [eq]
    exact absurd ((bus _ mem).2 e rfl) he

theorem handedFrames_ofMode {fd : FlexibleDataRateFrames} {answers : List ReadAnswer}
    (bus : ∀ a ∈ answers, a.OnBus fd) {maxSize : Int} {frame : List UInt8}
    (h : frame ∈ handedFrames (rawReadFromSocket fd maxSize answers).calls) : FrameOfMode fd frame := by
  obtain ⟨call, mem, handed⟩ := List.mem_filterMap.mp h
  obtain ⟨size, asked | again⟩ := readLoop_calls_asked call mem
  · have nonempty := handedFrames_ne_nil h
    unfold ReadCall.handed at handed
    split at handed
    next bytes eq =>
      rw [eq] at asked
      split at handed
      next => cases handed
      next some =>
        have here := bus _ asked
        have bytes_ne : bytes ≠ [] := by
          rintro rfl
          simp at some
        rw [size, (here.size bytes_ne).1] at handed
        rw [← Option.some.inj handed]
        exact here.resolve_left bytes_ne
    next => cases handed
  · simp [ReadCall.handed, again] at handed

theorem WholeFrames.same {fd : FlexibleDataRateFrames} {s t : Socket} (h : WholeFrames fd s)
    (same : t.readView = s.readView) : WholeFrames fd t := by
  have trace : t.trace.filter Event.onReadSide = s.trace.filter Event.onReadSide :=
    congrArg ReadView.trace same
  have before : ∀ e ∈ t.trace, e.onReadSide = true → e ∈ s.trace := by
    intro e mem side
    have kept : e ∈ t.trace.filter Event.onReadSide := List.mem_filter.mpr ⟨mem, side⟩
    rw [trace] at kept
    exact (List.mem_filter.mp kept).1
  refine ⟨?_, ?_, ?_, ?_⟩
  · intro bytesToRead answers mem
    exact h.clean _ _ (before _ mem rfl)
  · intro descriptor space call mem
    exact h.inside _ _ _ (before _ mem rfl)
  · rw [← kernelFrames_filter, trace, kernelFrames_filter]
    exact h.frames
  · rw [← userBytes_filter, trace, userBytes_filter]
    exact h.untouched

theorem WholeFrames.filled {s : Socket} (h : WholeFrames options.flexibleDataRateFrames s)
    (raw : s.protocol = .raw options) {answers : List ReadAnswer}
    (bus : ∀ a ∈ answers, a.Undisturbed options.flexibleDataRateFrames) (bytesToRead : Int)
    (buffer : List UInt8) :
    WholeFrames options.flexibleDataRateFrames { s.fillSpace answers bytesToRead with buffer := buffer } := by
  refine ⟨?_, ?_, ?_, ?_⟩
  · exact (fillSpace_clean answers bytesToRead s).mpr ⟨h.clean, readBatchClean_undisturbed bus bytesToRead s⟩
  · intro descriptor space call mem
    simp only [Socket.fillSpace, Socket.setErrno, List.mem_append, List.mem_cons, List.mem_map,
      reduceCtorEq, false_or, Event.read.injEq, raw] at mem
    rcases mem with mem | ⟨call, mem, rfl, rfl, rfl⟩
    · exact h.inside _ _ _ mem
    · exact readLoop_calls_inside call mem
  · intro frame mem
    have all := fillSpace_frames answers bytesToRead s
    rw [raw] at all
    dsimp only at mem
    rw [all] at mem
    rcases List.mem_append.mp mem with mem | mem
    · exact h.frames frame mem
    · exact handedFrames_ofMode (readAnswers_onBus (fun a ha => (bus a ha).1) s) mem
  · exact (fillSpace_user answers bytesToRead s).trans h.untouched

theorem wholeFrames_keep (options : CanRawOptions) :
    ReadSideKeep (ReadAnswer.Undisturbed options.flexibleDataRateFrames) fun s t =>
      ReceivesAll options s ∧ WholeFrames options.flexibleDataRateFrames s →
        ReceivesAll options t ∧ WholeFrames options.flexibleDataRateFrames t where
  trans first second h := second (first h)
  same same h := ⟨h.1.same same, h.2.same same⟩
  receive slot slots quiet answers bus bytesToRead s h := by
    have onBus : ∀ a ∈ answers, a.OnBus options.flexibleDataRateFrames := fun a ha => (bus a ha).1
    have filled := fun buffer => h.2.filled h.1.protocol bus bytesToRead buffer
    rcases s.receive_cases quiet answers bytesToRead with ⟨failed, same⟩ | ⟨ok, t, newBytes, same, eq⟩
    · exact ⟨(h.1.failed onBus failed).same same, (filled _).same same⟩
    · have stored := And.intro ((h.1.received onBus ok).same same) ((filled _).same same)
      rw [eq]
      unfold Socket.emitReadyRead
      split
      next =>
        have marked := Socket.readView_log (e := .signal .readyRead) rfl { t with emittedReadyRead := true }
        have told := slots .readyRead _ ⟨stored.1.same marked, stored.2.same marked⟩
        exact ⟨told.1.same rfl, told.2.same rfl⟩
      next => exact stored

theorem decodeAll_tagged (order : ByteOrder) {fd : FlexibleDataRateFrames} {frames : List (List UInt8)}
    (ofMode : ∀ frame ∈ frames, FrameOfMode fd frame) (target : CanFrameData) :
    decodeAll (getFrame order) (frames.flatMap tagFrame).length target (frames.flatMap tagFrame) =
      some (frames.map (frameOf order)) := by
  have size : ∀ frame ∈ frames, frame.length = canMtu ∨ frame.length = canfdMtu :=
    fun frame hf => (ofMode frame hf).imp_right And.right
  have long : ∀ frame ∈ frames, 8 ≤ frame.length := by
    intro frame hf
    have := size frame hf
    simp only [canMtu, canfdMtu] at this
    omega
  have wire : frames.flatMap tagFrame = (frames.map (frameOf order)).flatMap (wireBytes order) := by
    rw [List.flatMap_map]
    exact List.flatMap_congr fun frame hf => (wireBytes_frameOf order (long frame hf)).symm
  have nonempty : ∀ d : CanFrameData, wireBytes order d ≠ [] := by simp [wireBytes]
  have delimits : ∀ d ∈ frames.map (frameOf order), Delimits (wireBytes order) (getFrame order) d := by
    intro d hd
    obtain ⟨frame, hf, rfl⟩ := List.mem_map.mp hd
    exact wireBytes_delimits order (frameOf_tagged order (size frame hf))
  rw [wire]
  exact decodeAll_flatMap delimits (fun d _ => nonempty d) target (length_le_flatMap fun d _ => nonempty d)

/-- However the frames are divided into read notifications, the buffer holds whole tagged
frames, every read of the kernel stays in the space reserved for it, and decoding the
buffer to its end gives one frame for each frame of the kernel, with all its bytes. -/
theorem frames_resynchronise (order : ByteOrder) {s : Socket} (start : JustConnected s)
    (raw : s.protocol = .raw options) {batches : List (List ReadAnswer)}
    (bus : ∀ batch ∈ batches, ∀ a ∈ batch, a.Undisturbed options.flexibleDataRateFrames)
    (target : CanFrameData) :
    let t := CallRun.run Socket.step (batches.map Call.readNotification) s
    t.buffer = (kernelFrames t.trace).flatMap tagFrame ∧
      (∀ frame ∈ kernelFrames t.trace, FrameOfMode options.flexibleDataRateFrames frame) ∧
      (∀ descriptor space call, Event.read descriptor space call ∈ t.trace →
        (call.offset + call.length : Int) ≤ space) ∧
      decodeAll (getFrame order) t.buffer.length target t.buffer =
        some ((kernelFrames t.trace).map (frameOf order)) := by
  intro t
  have begun : WholeFrames options.flexibleDataRateFrames s := by
    refine ⟨?_, ?_, ?_, ?_⟩ <;> simp [start.trace, CleanReads, kernelFrames, userBytes]
  have guarded : CallRun.Guarded Socket.step (fun c _ => ∃ batch ∈ batches, c = .readNotification batch)
      (batches.map Call.readNotification) s := by
    apply CallRun.guarded_of_all
    intro c hc
    obtain ⟨batch, hb, rfl⟩ := List.mem_map.mp hc
    exact ⟨batch, hb, rfl⟩
  have reached : ReceivesAll options t ∧ WholeFrames options.flexibleDataRateFrames t := by
    have keep := @ReadSideKeep.readNotification Slot.idle _ _ (wholeFrames_keep options) (fun _ _ h => h)
      (fun _ _ => rfl)
    have step : ∀ c u, (∃ batch ∈ batches, c = .readNotification batch) →
        ReceivesAll options u ∧ WholeFrames options.flexibleDataRateFrames u →
        ReceivesAll options (Socket.step c u) ∧
          WholeFrames options.flexibleDataRateFrames (Socket.step c u) := by
      rintro c u ⟨batch, hb, rfl⟩ h
      exact keep batch (bus batch hb) u h
    exact CallRun.run_invariant step guarded ⟨start.receivesAll raw, begun⟩
  have whole : t.buffer = (kernelFrames t.trace).flatMap tagFrame := by
    rcases reached.1.account with ⟨_, ch, shows⟩ | ⟨dirty, _⟩
    · have conserved := shows.conserved
      rwa [reached.2.untouched, List.nil_append] at conserved
    · exact absurd reached.2.clean dirty
  refine ⟨whole, reached.2.frames, reached.2.inside, ?_⟩
  rw [whole]
  exact decodeAll_tagged order reached.2.frames target

theorem frames_resynchronise_twoFrames :
    let t := CallRun.run Socket.step ([[.got (twoFrames.take 16), .fail .EAGAIN],
      [.got (twoFrames.drop 16)]].map Call.readNotification) (.connected (.raw {}) 3)
    t.buffer = (kernelFrames t.trace).flatMap tagFrame ∧
      (∀ frame ∈ kernelFrames t.trace, FrameOfMode .disabledFdFrames frame) ∧
      (∀ descriptor space call, Event.read descriptor space call ∈ t.trace →
        (call.offset + call.length : Int) ≤ space) ∧
      decodeAll (getFrame .littleEndian) t.buffer.length {} t.buffer =
        some ((kernelFrames t.trace).map (frameOf .littleEndian)) :=
  frames_resynchronise .littleEndian justConnected_raw rfl
    (by simp [ReadAnswer.Undisturbed, ReadAnswer.OnBus, twoFrames, canMtu]) {}

end CanSocket
