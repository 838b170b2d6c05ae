import CanSocket.Channel
import CanSocket.ReadSide
import CanSocket.StreamCodec

namespace CanSocket

open StreamCodec

def Event.userBytes : Event → List UInt8
  | .userRead data => data
  | _ => []

def Event.handed : Event → Option (List UInt8)
  | .read _ _ call => call.handed
  | _ => none

def userBytes (trace : List Event) : List UInt8 := trace.flatMap Event.userBytes
def kernelFrames (trace : List Event) : List (List UInt8) := trace.filterMap Event.handed

/-- The frames of a trace as they are to arrive, only their reserved bytes replaced. -/
def taggedBytes (trace : List Event) : List UInt8 := (kernelFrames trace).flatMap tagFrame

/-- Every call of `readFromSocket` met a clean series of answers. -/
def CleanReads (fd : FlexibleDataRateFrames) (trace : List Event) : Prop :=
  ∀ bytesToRead answers, Event.readFromSocket bytesToRead answers ∈ trace →
    ReadBatchClean fd bytesToRead answers

theorem userBytes_filter (trace : List Event) :
    userBytes (trace.filter Event.onReadSide) = userBytes trace := by
  apply flatMap_filter
  intro e h
  cases e <;> first | rfl | cases h

theorem kernelFrames_filter (trace : List Event) :
    kernelFrames (trace.filter Event.onReadSide) = kernelFrames trace := by
  rw [kernelFrames, List.filterMap_filter]
  apply List.filterMap_congr
  intro e _
  cases e <;> rfl

@[simp] theorem kernelFrames_append (before after : List Event) :
    kernelFrames (before ++ after) = kernelFrames before ++ kernelFrames after := List.filterMap_append

theorem kernelFrames_calls (descriptor space : Int) (calls : List ReadCall) :
    kernelFrames (calls.map (Event.read descriptor space)) = handedFrames calls := by
  rw [kernelFrames, List.filterMap_map]
  rfl

/-- The read side of a raw socket, seen as a channel from the bus: as long as all batches are
clean it carries every byte once and in order, after that some are missing. -/
structure ReceivesAll (options : CanRawOptions) (s : Socket) : Prop where
  protocol : s.protocol = .raw options
  account : CleanReads options.flexibleDataRateFrames s.trace ∧
      (∃ ch : Channel UInt8, ch.Shows (taggedBytes s.trace) (userBytes s.trace) s.buffer) ∨
    ¬CleanReads options.flexibleDataRateFrames s.trace ∧
      (userBytes s.trace).length + s.buffer.length < (taggedBytes s.trace).length

variable {options : CanRawOptions}

theorem ReceivesAll.same {s t : Socket} (h : ReceivesAll options s) (same : t.readView = s.readView) :
    ReceivesAll options t := by
  have protocol : t.protocol = s.protocol := congrArg ReadView.protocol same
  have buffer : t.buffer = s.buffer := congrArg ReadView.buffer same
  have trace : t.trace.filter Event.onReadSide = s.trace.filter Event.onReadSide :=
    congrArg ReadView.trace same
  have frames : taggedBytes t.trace = taggedBytes s.trace := by
    rw [taggedBytes, ← kernelFrames_filter, trace, kernelFrames_filter, taggedBytes]
  have user : userBytes t.trace = userBytes s.trace := by
    rw [← userBytes_filter t.trace, trace, userBytes_filter]
  have side : ∀ (bytesToRead : Int) (answers : List ReadAnswer) (trace : List Event),
      Event.readFromSocket bytesToRead answers ∈ trace ↔
        Event.readFromSocket bytesToRead answers ∈ trace.filter Event.onReadSide := by
    simp [List.mem_filter, Event.onReadSide]
  have clean : CleanReads options.flexibleDataRateFrames t.trace ↔
      CleanReads options.flexibleDataRateFrames s.trace := by
    simp only [CleanReads, side _ _ t.trace, side _ _ s.trace, trace]
  refine ⟨protocol.trans h.protocol, ?_⟩
  rw [clean, frames, user, buffer]
  exact h.account

theorem ReceivesAll.taken {s : Socket} (h : ReceivesAll options s) (maxSize : Nat) :
    ReceivesAll options
      (({ s with buffer := s.buffer.drop maxSize }).log (.userRead (s.buffer.take maxSize))) := by
  have frames : taggedBytes (s.trace ++ [.userRead (s.buffer.take maxSize)]) = taggedBytes s.trace := by
    simp [taggedBytes, kernelFrames, Event.handed]
  have user : userBytes (s.trace ++ [.userRead (s.buffer.take maxSize)]) =
      userBytes s.trace ++ s.buffer.take maxSize := by
    simp [userBytes, Event.userBytes]
  have clean : CleanReads options.flexibleDataRateFrames (s.trace ++ [.userRead (s.buffer.take maxSize)]) ↔
      CleanReads options.flexibleDataRateFrames s.trace := by
    simp [CleanReads]
  refine ⟨h.protocol, ?_⟩
  simp only [Socket.log, frames, user, clean]
  rcases h.account with ⟨all, ch, shows⟩ | ⟨dirty, missing⟩
  · exact Or.inl ⟨all, ch.deliver maxSize, shows.deliver maxSize⟩
  · refine Or.inr ⟨dirty, ?_⟩
    simp only [List.length_append, List.length_take, List.length_drop]
    omega

theorem ReceivesAll.read {s : Socket} (h : ReceivesAll options s) (maxSize : Nat) :
    ReceivesAll options (s.readDevice maxSize) := by
  have taken := h.taken maxSize
  unfold Socket.readDevice
  split
  next => exact h
  next =>
    dsimp only
    split
    next =>
      unfold Socket.readData
      split
      next => exact taken.same (Socket.readView_setRead true _)
      next => exact taken
    next => exact taken

theorem fillSpace_user (answers : List ReadAnswer) (bytesToRead : Int) (s : Socket) :
    userBytes (s.fillSpace answers bytesToRead).trace = userBytes s.trace := by
  simp [Socket.fillSpace, Socket.setErrno, userBytes, Event.userBytes, List.flatMap_map]

theorem fillSpace_frames (answers : List ReadAnswer) (bytesToRead : Int) (s : Socket) :
    kernelFrames (s.fillSpace answers bytesToRead).trace = kernelFrames s.trace ++
      handedFrames (s.protocol.readFromSocket bytesToRead (s.readAnswers answers)).calls := by
  rw [← kernelFrames_calls s.descriptor bytesToRead]
  exact kernelFrames_append _ _

theorem fillSpace_tagged (answers : List ReadAnswer) (bytesToRead : Int) (s : Socket) :
    taggedBytes (s.fillSpace answers bytesToRead).trace = taggedBytes s.trace ++
      (handedFrames (s.protocol.readFromSocket bytesToRead (s.readAnswers answers)).calls).flatMap tagFrame := by
  rw [taggedBytes, fillSpace_frames, List.flatMap_append, taggedBytes]

theorem fillSpace_clean {fd : FlexibleDataRateFrames} (answers : List ReadAnswer) (bytesToRead : Int)
    (s : Socket) :
    CleanReads fd (s.fillSpace answers bytesToRead).trace ↔
      CleanReads fd s.trace ∧ ReadBatchClean fd bytesToRead (s.readAnswers answers) := by
  simp only [CleanReads, Socket.fillSpace, Socket.setErrno, List.mem_append, List.mem_cons, List.mem_map,
    reduceCtorEq, and_false, exists_false, or_false, Event.readFromSocket.injEq]
  constructor
  · intro h
    exact ⟨fun n a ha => h n a (Or.inl ha), h _ _ (Or.inr ⟨rfl, rfl⟩)⟩
  · rintro ⟨before, now⟩ n a (ha | ⟨rfl, rfl⟩)
    · exact before n a ha
    · exact now

theorem readAnswers_onBus {fd : FlexibleDataRateFrames} {answers : List ReadAnswer}
    (bus : ∀ a ∈ answers, a.OnBus fd) (s : Socket) : ∀ a ∈ s.readAnswers answers, a.OnBus fd := by
  unfold Socket.readAnswers
  split
  next =>
    intro a ha
    rw [List.mem_singleton.mp ha]
    trivial
  next => exact bus

theorem handedFrames_ne_nil {calls : List ReadCall} {frame : List UInt8} (h : frame ∈ handedFrames calls) :
    frame ≠ [] := by
  obtain ⟨call, _, handed⟩ := List.mem_filterMap.mp h
  unfold ReadCall.handed at handed
  split at handed
  next bytes _ =>
    split at handed
    next => cases handed
    next nonempty => rwa [← Option.some.inj handed]
  next => cases handed

theorem ReceivesAll.failed {s : Socket} (h : ReceivesAll options s) {answers : List ReadAnswer}
    (bus : ∀ a ∈ answers, a.OnBus options.flexibleDataRateFrames) {bytesToRead : Int}
    (failed : (s.protocol.readFromSocket bytesToRead (s.readAnswers answers)).ret < 0) :
    ReceivesAll options { s.fillSpace answers bytesToRead with buffer := s.buffer } := by
  have exact_clean := @rawReadFromSocket_clean_iff options.flexibleDataRateFrames bytesToRead
    (s.readAnswers answers) (readAnswers_onBus bus s)
  rw [h.protocol] at failed
  refine ⟨h.protocol, ?_⟩
  dsimp only
  rw [fillSpace_user, fillSpace_tagged, fillSpace_clean, h.protocol]
  dsimp only [Protocol.readFromSocket] at failed ⊢
  by_cases nothing : handedFrames (rawReadFromSocket options.flexibleDataRateFrames bytesToRead
      (s.readAnswers answers)).calls = []
  · have clean := exact_clean.mpr (Or.inr nothing)
    simpa [clean, nothing] using h.account
  · have dirty := mt exact_clean.mp (not_or.mpr ⟨Int.not_le.mpr failed, nothing⟩)
    have lost : 0 < ((handedFrames (rawReadFromSocket options.flexibleDataRateFrames bytesToRead
        (s.readAnswers answers)).calls).flatMap tagFrame).length :=
      Nat.lt_of_lt_of_le (List.length_pos_iff.mpr nothing)
        (length_le_flatMap fun frame hf => tagFrame_ne_nil (handedFrames_ne_nil hf))
    refine Or.inr ⟨fun both => dirty both.2, ?_⟩
    rw [List.length_append]
    rcases h.account with ⟨_, ch, shows⟩ | ⟨_, missing⟩
    · have sum := congrArg List.length shows.conserved
      rw [List.length_append] at sum
      omega
    · omega

theorem ReceivesAll.received {s : Socket} (h : ReceivesAll options s) {answers : List ReadAnswer}
    (bus : ∀ a ∈ answers, a.OnBus options.flexibleDataRateFrames) {bytesToRead : Int}
    (ok : 0 ≤ (s.protocol.readFromSocket bytesToRead (s.readAnswers answers)).ret) :
    ReceivesAll options { s.fillSpace answers bytesToRead with
      buffer := s.buffer ++ (s.protocol.readFromSocket bytesToRead (s.readAnswers answers)).data } := by
  rw [h.protocol] at ok
  dsimp only [Protocol.readFromSocket] at ok
  have clean := (rawReadFromSocket_clean_iff (readAnswers_onBus bus s)).mpr (Or.inl ok)
  have data : (rawReadFromSocket options.flexibleDataRateFrames bytesToRead (s.readAnswers answers)).data =
      (handedFrames (rawReadFromSocket options.flexibleDataRateFrames bytesToRead
        (s.readAnswers answers)).calls).flatMap tagFrame := by
    simpa [rawReadFromSocket] using readLoop_data ok
  refine ⟨h.protocol, ?_⟩
  dsimp only
  rw [fillSpace_user, fillSpace_tagged, fillSpace_clean, h.protocol]
  dsimp only [Protocol.readFromSocket]
  rw [data]
  rcases h.account with ⟨all, ch, shows⟩ | ⟨dirty, missing⟩
  · exact Or.inl ⟨⟨all, clean⟩, ch.offer _, shows.offer _⟩
  · refine Or.inr ⟨fun both => dirty both.1, ?_⟩
    simp only [List.length_append]
    omega

theorem ReceivesAll.receive {slot : Slot} (slots : ∀ sig s, ReceivesAll options s → ReceivesAll options (slot sig s))
    (quiet : ∀ e s, slot (.error e) s = s) {answers : List ReadAnswer}
    (bus : ∀ a ∈ answers, a.OnBus options.flexibleDataRateFrames) (bytesToRead : Int) {s : Socket}
    (h : ReceivesAll options s) : ReceivesAll options (s.receive slot answers bytesToRead).2 := by
  rcases s.receive_cases quiet answers bytesToRead with ⟨failed, same⟩ | ⟨ok, t, newBytes, same, eq⟩
  · exact (h.failed bus failed).same same
  · have stored := (h.received bus ok).same same
    rw [eq]
    unfold Socket.emitReadyRead
    split
    next =>
      have marked := stored.same (Socket.readView_log (e := .signal .readyRead) rfl
        { t with emittedReadyRead := true })
      exact (slots .readyRead _ marked).same rfl
    next => exact stored

theorem receivesAll_keep (options : CanRawOptions) :
    ReadSideKeep (ReadAnswer.OnBus options.flexibleDataRateFrames)
      fun s t => ReceivesAll options s → ReceivesAll options t where
  trans first second h := second (first h)
  same same h := h.same same
  receive _ slots quiet _ bus bytesToRead _ h := h.receive slots quiet bus bytesToRead

theorem JustConnected.receivesAll {s : Socket} (start : JustConnected s) (raw : s.protocol = .raw options) :
    ReceivesAll options s := by
  refine ⟨raw, Or.inl ⟨?_, .empty, ?_⟩⟩
  · simp [CleanReads, start.trace]
  · rw [start.trace, start.buffer]
    exact Channel.shows_empty

/-- In every run of a connected raw socket on a bus, the slots of `readyRead` and the other
signals but `error` calling back to any depth, the bytes read by the user followed by the buffer
are the frames taken from the kernel, tagged, if and only if all batches were clean. -/
theorem received_all_iff {script : Script} {s : Socket} (start : JustConnected s)
    (raw : s.protocol = .raw options)
    (on : script.All (Call.Reads (ReadAnswer.OnBus options.flexibleDataRateFrames)) Signal.IsError) :
    userBytes (script.exec s).trace ++ (script.exec s).buffer = taggedBytes (script.exec s).trace ↔
      CleanReads options.flexibleDataRateFrames (script.exec s).trace := by
  have reached := (receivesAll_keep options).script (fun maxSize _ h => h.read maxSize) on s
    (start.receivesAll raw)
  rcases reached.account with ⟨clean, ch, shows⟩ | ⟨dirty, missing⟩
  · exact iff_of_true shows.conserved clean
  · refine iff_of_false ?_ dirty
    intro eq
    have sum := congrArg List.length eq
    rw [List.length_append] at sum
    omega

theorem received_all_iff_twoFrames :
    let s := Script.exec (.ofList [.readNotification [.got (twoFrames.take 16), .fail .EAGAIN], .read 20,
      .readNotification [.got (twoFrames.drop 16)]]) (.connected (.raw {}) 3)
    userBytes s.trace ++ s.buffer = taggedBytes s.trace ↔ CleanReads .disabledFdFrames s.trace :=
  received_all_iff justConnected_raw rfl (CallRun.Script.all_ofList (by
    simp [Call.Reads, Call.OnConnection, Call.readAnswers, ReadAnswer.OnBus, twoFrames, canMtu]))

/-- The device goes down behind the first frame of a batch, which is lost. -/
theorem received_all_fails :
    let s := Script.exec (.ofList [.setReadBufferSize 32,
      .readNotification [.got (twoFrames.take 16), .fail (.other 100)]]) (.connected (.raw {}) 3)
    kernelFrames s.trace = [twoFrames.take 16] ∧ userBytes s.trace = [] ∧ s.buffer = [] ∧
      userBytes s.trace ++ s.buffer ≠ taggedBytes s.trace := by
  decide

end CanSocket
