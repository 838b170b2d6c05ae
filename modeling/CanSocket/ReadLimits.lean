import CanSocket.TransferSteps

namespace CanSocket

namespace Socket

/-- What came to the trace between two states of one run. -/
def added (s t : Socket) : List Event := t.trace.drop s.trace.length

theorem added_of_append {s t : Socket} {events : List Event} (eq : t.trace = s.trace ++ events) :
    s.added t = events := by
  rw [added, eq, List.drop_left]

theorem roomToRead_le (s : Socket) : s.roomToRead ≤ s.protocol.readChunkSize := by
  unfold roomToRead
  split <;> omega

theorem readChunkSize_pos (p : Protocol) : 0 < p.readChunkSize := by
  cases p with
  | raw options => exact (by decide : (0 : Int) < 1152)
  | isoTp fields => exact (by decide : (0 : Int) < 4096)

/-- A limit below the fill level, and nothing else, makes the room negative. -/
theorem roomToRead_neg (s : Socket) :
    s.roomToRead < 0 ↔ ¬(s.readBufferMaxSize = 0 ∨ (s.buffer.length : Int) ≤ s.readBufferMaxSize) := by
  have positive := readChunkSize_pos s.protocol
  unfold roomToRead
  split <;> omega

theorem roomToRead_limited (s : Socket) (limited : s.readBufferMaxSize ≠ 0) :
    s.roomToRead ≤ s.readBufferMaxSize - s.buffer.length := by
  unfold roomToRead
  split <;> omega

theorem readReceived_eq (answers : List ReadAnswer) (s : Socket) :
    (s.readReceived answers).buffer = s.buffer ++ (s.readResult answers).data ∧
      s.added (s.readReceived answers) = s.readEvents answers ++
        if s.emittedReadyRead = false ∧ (s.readResult answers).data ≠ [] then [.signal .readyRead] else [] := by
  unfold readReceived
  rw [disableIfFull_notifier]
  exact ⟨rfl, added_of_append (List.append_assoc _ _ _)⟩

theorem readFailed_eq (answers : List ReadAnswer) (s : Socket) :
    (s.readFailed answers).buffer = s.buffer ∧ s.added (s.readFailed answers) = s.readEvents answers ++
      [.signal (.error (transferError .readError ((s.readResult answers).errno.getD s.errno)).errorCode)] :=
  ⟨rfl, added_of_append (List.append_assoc _ _ _)⟩

theorem readOff_eq (s : Socket) :
    (s.setReadNotificationEnabled false).buffer = s.buffer ∧ s.added (s.setReadNotificationEnabled false) = [] := by
  rw [setRead_false]
  exact ⟨rfl, added_of_append (List.append_nil _).symm⟩

end Socket

/-- What a read step that goes from `s` to `t` is to keep to. -/
structure RespectsLimit (s t : Socket) : Prop where
  requests : ∀ n answers, .readFromSocket n answers ∈ s.added t → 0 < n ∧ n ≤ s.protocol.readChunkSize
  bounded : s.readBufferMaxSize ≠ 0 → (t.buffer.length : Int) ≤ max (s.buffer.length : Int) s.readBufferMaxSize
  failed : (∃ e, .signal (.error e) ∈ s.added t) → t.buffer = s.buffer

theorem mem_readEvents {answers : List ReadAnswer} {s : Socket} {n : Int} {given : List ReadAnswer}
    (mem : .readFromSocket n given ∈ s.readEvents answers) : n = s.roomToRead := by
  rcases List.mem_cons.mp mem with eq | mem
  · cases eq
    rfl
  · obtain ⟨call, _, eq⟩ := List.mem_map.mp mem
    cases eq

theorem error_not_readyRead (e : SocketError) {emits : Prop} [Decidable emits] :
    Event.signal (.error e) ∉ if emits then [Event.signal .readyRead] else [] := by
  split <;> simp

theorem signal_not_mem_readEvents (answers : List ReadAnswer) (s : Socket) (sig : Signal) :
    .signal sig ∉ s.readEvents answers := by
  simp [Socket.readEvents]

theorem asks_roomToRead (answers : List ReadAnswer) (s : Socket) (told : List Event) :
    .readFromSocket s.roomToRead (s.readAnswers answers) ∈ s.readEvents answers ++ told := by
  simp [Socket.readEvents]

/-- A step that asks for the room and leaves this buffer keeps to the limit if the room is some. -/
theorem respectsLimit_asked {answers : List ReadAnswer} {s t : Socket} {told : List Event}
    (added : s.added t = s.readEvents answers ++ told)
    (quiet : ∀ n given, .readFromSocket n given ∉ told)
    (bounded : s.readBufferMaxSize ≠ 0 → (t.buffer.length : Int) ≤ max (s.buffer.length : Int) s.readBufferMaxSize)
    (failed : (∃ e, .signal (.error e) ∈ told) → t.buffer = s.buffer) :
    RespectsLimit s t ↔ 0 < s.roomToRead := by
  constructor
  · intro h
    have asked := asks_roomToRead answers s told
    rw [← added] at asked
    exact (h.requests _ _ asked).1
  · intro room
    refine ⟨?_, bounded, ?_⟩
    · intro n given mem
      rw [added] at mem
      rcases List.mem_append.mp mem with mem | mem
      · rw [mem_readEvents mem]
        exact ⟨room, s.roomToRead_le⟩
      · exact absurd mem (quiet n given)
    · rintro ⟨e, mem⟩
      rw [added] at mem
      rcases List.mem_append.mp mem with mem | mem
      · exact absurd mem (signal_not_mem_readEvents answers s _)
      · exact failed ⟨e, mem⟩

/-- A read notification keeps to the limit of the buffer in every state in which the buffer is
not already over it. -/
theorem read_limit_iff (answers : List ReadAnswer) (s : Socket) :
    RespectsLimit s (s.step (.readNotification answers)) ↔
      s.readBufferMaxSize = 0 ∨ (s.buffer.length : Int) ≤ s.readBufferMaxSize := by
  have step := readNotification_step answers s
  have exceeded := s.roomToRead_neg
  change RespectsLimit s (s.readNotification Slot.idle answers).2 ↔ _
  generalize s.readNotification Slot.idle answers = r at step
  cases step with
  | full limited none =>
    obtain ⟨buffer, added⟩ := s.readOff_eq
    refine iff_of_true ⟨?_, ?_, fun _ => buffer⟩ (by omega)
    · intro n given mem
      rw [added] at mem
      cases mem
    · rw [buffer]
      omega
  | failed room failed =>
    obtain ⟨buffer, added⟩ := s.readFailed_eq answers
    rw [respectsLimit_asked added (by simp) (by rw [buffer]; omega) fun _ => buffer]
    omega
  | received room stored =>
    obtain ⟨buffer, added⟩ := s.readReceived_eq answers
    have inside : ((s.readResult answers).data.length : Int) ≤ max s.roomToRead 0 :=
      (s.protocol.readFromSocket_spec s.roomToRead (s.readAnswers answers)).2
    rw [respectsLimit_asked added]
    · omega
    · intro n given
      split <;> simp
    · intro limited
      have := s.roomToRead_limited limited
      rw [buffer, List.length_append]
      omega
    · rintro ⟨e, mem⟩
      exact absurd mem (error_not_readyRead e)

set_option maxRecDepth 8000 in
/-- A limit set below what the buffer holds: the next notification asks for minus eight bytes. -/
theorem read_limit_fails :
    let s := CallRun.run Socket.step [.readNotification [.got (twoFrames.take 16)], .setReadBufferSize 8]
      (.connected (.raw {}) 3)
    s.buffer.length = 16 ∧ .readFromSocket (-8) [] ∈ s.added (s.step (.readNotification [])) ∧
      ¬RespectsLimit s (s.step (.readNotification [])) := by
  intro s
  have asked : .readFromSocket (-8) [] ∈ s.added (s.step (.readNotification [])) := by decide
  exact ⟨by decide, asked, fun h => absurd (h.requests _ _ asked).1 (by decide)⟩

/-- What a read notification is to come to when the kernel has this frame ready. -/
def Progresses (frame : List UInt8) (s t : Socket) : Prop :=
  s.buffer ++ tagFrame frame <+: t.buffer ∨ (∃ e, .signal (.error e) ∈ s.added t) ∨
    t.isReadNotificationEnabled = false

theorem readLoop_begins (fd : FlexibleDataRateFrames) (maxSize : Int) (answers : List ReadAnswer)
    (data : List UInt8) : data <+: (readLoop fd maxSize answers data).data := by
  induction answers generalizing data with
  | nil => unfold readLoop; split <;> exact List.prefix_refl _
  | cons answer answers ih =>
    unfold readLoop
    split
    next =>
      cases answer with
      | fail e => dsimp only; split <;> exact List.prefix_refl _
      | got bytes =>
        dsimp only
        split
        next => exact List.prefix_refl _
        next =>
          split
          next => exact (List.prefix_append _ _).trans (ih _)
          next => exact List.prefix_append _ _
    next => exact List.prefix_refl _

/-- A frame that is ready is read if there is room for one of the mode's size, and only then. -/
theorem readResult_ready {options : CanRawOptions} {s : Socket} (raw : s.protocol = .raw options)
    (connected : s.descriptor ≠ -1) {frame : List UInt8}
    (bus : (ReadAnswer.got frame).OnBus options.flexibleDataRateFrames) (nonempty : frame ≠ [])
    (rest : List ReadAnswer) :
    ((frameSize options.flexibleDataRateFrames : Int) ≤ s.roomToRead →
        tagFrame frame <+: (s.readResult (.got frame :: rest)).data) ∧
      (s.roomToRead < frameSize options.flexibleDataRateFrames →
        (s.readResult (.got frame :: rest)).ret = 0 ∧ (s.readResult (.got frame :: rest)).data = []) := by
  have result : s.readResult (.got frame :: rest) =
      readLoop options.flexibleDataRateFrames s.roomToRead (.got frame :: rest) [] := by
    rw [Socket.readResult_raw raw, Socket.readAnswers, if_neg connected]
    rfl
  obtain ⟨whole, size⟩ := bus.size nonempty
  have nonzero : ¬frame.length = 0 := fun h => nonempty (List.length_eq_zero_iff.mp h)
  rw [result]
  constructor
  · intro room
    have fits : (([] : List UInt8).length : Int) ≤ s.roomToRead - frameSize options.flexibleDataRateFrames := by
      simp only [List.length_nil]
      omega
    unfold readLoop
    simp only [if_pos fits, whole, if_neg nonzero, if_pos size, List.nil_append]
    exact readLoop_begins _ _ _ _
  · intro small
    have none : ¬(([] : List UInt8).length : Int) ≤ s.roomToRead - frameSize options.flexibleDataRateFrames := by
      simp only [List.length_nil]
      omega
    unfold readLoop
    rw [if_neg none]
    exact ⟨rfl, rfl⟩

/-- A step that received nothing leaves the notifier, since a full buffer has no room at all. -/
theorem readReceived_idle {answers : List ReadAnswer} {s : Socket} (room : s.roomToRead ≠ 0)
    (empty : (s.readResult answers).data = []) :
    (s.readReceived answers).isReadNotificationEnabled = s.isReadNotificationEnabled := by
  have space : ¬(s.readBufferMaxSize ≠ 0 ∧ (s.buffer.length : Int) = s.readBufferMaxSize) := by
    rintro ⟨limited, full⟩
    have positive := Socket.readChunkSize_pos s.protocol
    unfold Socket.roomToRead at room
    split at room <;> omega
  unfold Socket.readReceived
  rw [empty, List.append_nil]
  exact (congrArg Socket.isReadNotificationEnabled (if_neg space)).trans rfl

/-- With a frame ready, a read notification of a connected raw socket takes it, reports an error or
leaves the notifier off, unless the notifier is on and there is some room but less than a frame. -/
theorem read_progress_iff {options : CanRawOptions} {s : Socket} (raw : s.protocol = .raw options)
    (connected : s.descriptor ≠ -1) {frame : List UInt8}
    (bus : (ReadAnswer.got frame).OnBus options.flexibleDataRateFrames) (nonempty : frame ≠ [])
    (rest : List ReadAnswer) :
    Progresses frame s (s.step (.readNotification (.got frame :: rest))) ↔
      s.isReadNotificationEnabled = false ∨ s.roomToRead = 0 ∨
        (frameSize options.flexibleDataRateFrames : Int) ≤ s.roomToRead := by
  obtain ⟨takes, leaves⟩ := readResult_ready raw connected bus nonempty rest
  have step := readNotification_step (.got frame :: rest) s
  change Progresses frame s (s.readNotification Slot.idle (.got frame :: rest)).2 ↔ _
  generalize s.readNotification Slot.idle (.got frame :: rest) = r at step
  cases step with
  | full _ none => exact iff_of_true (Or.inr (Or.inr (s.setRead_isRead false))) (Or.inr (Or.inl none))
  | failed room failed =>
    obtain ⟨_, added⟩ := s.readFailed_eq (.got frame :: rest)
    have told : ∃ e, .signal (.error e) ∈ s.added (s.readFailed (.got frame :: rest)) := by
      rw [added]
      exact ⟨_, List.mem_append_right _ (List.mem_singleton.mpr rfl)⟩
    refine iff_of_true (Or.inr (Or.inl told)) (Or.inr (Or.inr ?_))
    · by_contra small
      have := (leaves (Int.not_le.mp small)).1
      omega
  | received room stored =>
    obtain ⟨buffer, added⟩ := s.readReceived_eq (.got frame :: rest)
    by_cases fits : (frameSize options.flexibleDataRateFrames : Int) ≤ s.roomToRead
    · refine iff_of_true (Or.inl ?_) (Or.inr (Or.inr fits))
      rw [buffer]
      exact (List.prefix_append_right_inj _).mpr (takes fits)
    · obtain ⟨_, empty⟩ := leaves (Int.not_le.mp fits)
      have notifier := readReceived_idle room empty
      rw [empty, List.append_nil] at buffer
      constructor
      · rintro (taken | ⟨e, mem⟩ | off)
        · rw [buffer] at taken
          have := taken.length_le
          have some := List.length_pos_iff.mpr (tagFrame_ne_nil nonempty)
          simp only [List.length_append] at this
          omega
        · rw [added] at mem
          rcases List.mem_append.mp mem with mem | mem
          · exact absurd mem (signal_not_mem_readEvents _ s _)
          · exact absurd mem (error_not_readyRead e)
        · exact Or.inl (notifier ▸ off)
      · rintro (off | none | fits')
        · exact Or.inr (Or.inr (notifier.trans off))
        · exact absurd none room
        · exact absurd fits' fits

theorem read_progress_iff_frame :
    Progresses (twoFrames.take 16) (.connected (.raw {}) 3)
        ((Socket.connected (.raw {}) 3).step (.readNotification [.got (twoFrames.take 16)])) ↔
      (Socket.connected (.raw {}) 3).isReadNotificationEnabled = false ∨
        (Socket.connected (.raw {}) 3).roomToRead = 0 ∨
        (frameSize .disabledFdFrames : Int) ≤ (Socket.connected (.raw {}) 3).roomToRead :=
  @read_progress_iff {} (.connected (.raw {}) 3) rfl (by decide) (twoFrames.take 16) (Or.inr (Or.inl rfl)) (by decide) []

set_option maxRecDepth 8000 in
/-- With a limit of 24 and one frame in the buffer the room is eight bytes: the frame that is ready
stays in the kernel, no error is told and the notifier stays on. -/
theorem read_progress_fails :
    let s := CallRun.run Socket.step [.setReadBufferSize 24, .readNotification [.got (twoFrames.take 16)]]
      (.connected (.raw {}) 3)
    let t := s.step (.readNotification [.got (twoFrames.drop 16)])
    s.state = .connectedState ∧ s.isReadNotificationEnabled = true ∧ t.buffer = s.buffer ∧
      t.isReadNotificationEnabled = true ∧ ¬Progresses (twoFrames.drop 16) s t := by
  intro s t
  have same : t.buffer = s.buffer := by decide
  have added : s.added t = [.readFromSocket 8 [.got (twoFrames.drop 16)]] := by decide
  have on : t.isReadNotificationEnabled = true := by decide
  refine ⟨by decide, by decide, same, on, ?_⟩
  rintro (taken | ⟨e, mem⟩ | off)
  · exact absurd taken (by decide)
  · simp [added] at mem
  · rw [on] at off
    cases off

end CanSocket
