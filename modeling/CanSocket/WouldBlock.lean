import CanSocket.KernelFailures
import CanSocket.ReadLimits
import CanSocket.ReceiveAll
import CanSocket.SendOnce
import CanSocket.WholeMessages

namespace CanSocket

/-- The two functions that move bytes between the buffers and the kernel. -/
inductive Transfer
  | readNotification (answers : List ReadAnswer)
  | startAsyncWrite (env : WriteEnv)

def Socket.transfer (s : Socket) : Transfer → Bool × Socket
  | .readNotification answers => s.readNotification Slot.idle answers
  | .startAsyncWrite env => s.startAsyncWrite Slot.idle env

/-- One of the kernel calls of the transfer is answered that it would block. -/
def Socket.Blocks (transfer : Transfer) (s : Socket) : Prop :=
  .EAGAIN ∈ failures (s.added (s.transfer transfer).2)

/-- What was handed over to the library, as it is to stand in the read buffer. -/
def Protocol.receivedBytes : Protocol → List Event → List UInt8
  | .raw _ => taggedBytes
  | .isoTp _ => storedBytes

/-- What a transfer is to leave behind that has to wait. -/
structure LeftForRetry (s t : Socket) : Prop where
  silent : ∀ code, .signal (.error code) ∉ s.added t
  error : t.error = s.error
  buffer : t.buffer = s.buffer ++ s.protocol.receivedBytes (s.added t)
  writeBuffer : t.writeBuffer = s.writeBuffer.drop (sentBytes (s.added t)).length
  reading : s.isReadNotificationEnabled = true → t.isReadNotificationEnabled = true
  writing : s.isWriteNotificationEnabled = true → t.isWriteNotificationEnabled = true

/-- A raw read that would block has room for one more frame. -/
theorem readLoop_blocked {fd : FlexibleDataRateFrames} {maxSize : Int} {answers : List ReadAnswer} {data : List UInt8}
    (blocked : (readLoop fd maxSize answers data).errno = some .EAGAIN) :
    ((readLoop fd maxSize answers data).data.length : Int) ≤ maxSize - frameSize fd := by
  induction answers generalizing data with
  | nil =>
    unfold readLoop at blocked ⊢
    split
    next room => exact room
    next full => rw [if_neg full] at blocked; cases blocked
  | cons answer answers ih =>
    unfold readLoop at blocked ⊢
    split
    next room =>
      rw [if_pos room] at blocked
      cases answer with
      | fail e =>
        dsimp only at blocked ⊢
        split <;> exact room
      | got bytes =>
        dsimp only at blocked ⊢
        split at blocked
        next => cases blocked
        next some =>
          rw [if_neg some]
          split at blocked
          next size =>
            rw [if_pos size]
            exact ih blocked
          next => cases blocked
    next full => rw [if_neg full] at blocked; cases blocked

theorem raw_read_blocked {options : CanRawOptions} {answers : List ReadAnswer} {s : Socket}
    (raw : s.protocol = .raw options) (blocked : .EAGAIN ∈ failures (s.readEvents answers)) :
    0 ≤ (s.readResult answers).ret ∧ ((s.readResult answers).data.length : Int) < s.roomToRead := by
  have ends := readLoop_endsAtFailure options.flexibleDataRateFrames s.roomToRead (s.readAnswers answers) []
  have result := Socket.readResult_raw raw answers
  unfold rawReadFromSocket at result
  rw [failures_readEvents, result, ends.last, Option.mem_toList] at blocked
  have room := readLoop_blocked blocked
  have positive := frameSize_pos options.flexibleDataRateFrames
  have tolerated := ends.fails .EAGAIN blocked
  rw [result]
  simp only [ne_eq, not_true_eq_false, iff_false, Int.not_lt] at tolerated
  exact ⟨tolerated, by omega⟩

theorem isoTp_read_blocked {fields : CanIsoTpFields} {answers : List ReadAnswer} {s : Socket}
    (isoTp : s.protocol = .isoTp fields) (blocked : .EAGAIN ∈ failures (s.readEvents answers)) :
    (s.readResult answers).ret = -1 := by
  have result : s.readResult answers = isoTpReadFromSocket s.roomToRead (s.readAnswers answers) := by
    rw [Socket.readResult, isoTp]
    rfl
  rw [failures_readEvents, result] at blocked
  rw [result]
  unfold isoTpReadFromSocket at blocked ⊢
  split
  next => rfl
  next room =>
    rw [if_neg room] at blocked
    exact qtSafeRead_failure (by decide) blocked

/-- Neither of the two ways to write knows an answer that it would block. -/
theorem write_blocked {env : WriteEnv} {s : Socket} (blocked : .EAGAIN ∈ failures (s.writeEvents env)) :
    (s.writeResult env).ret < 0 := by
  rw [failures_writeEvents] at blocked
  cases protocol : s.protocol with
  | raw options =>
    have ends := writeLoop_endsAtFailure options.flexibleDataRateFrames (s.nextDataBlock env)
      (s.writeAnswers env.answers) 0
    have result := Socket.writeResult_raw protocol env
    unfold rawWriteToSocket at result
    rw [result, ends.last, Option.mem_toList] at blocked
    rw [result]
    exact (ends.fails .EAGAIN blocked).mpr (by decide)
  | isoTp fields =>
    rw [Socket.writeResult, protocol] at blocked ⊢
    have failed : (isoTpWriteToSocket (s.nextDataBlock env) (s.writeAnswers env.answers)).ret = -1 :=
      isoTpWriteToSocket_failure (by decide) blocked
    exact Int.lt_of_le_of_lt (Int.le_of_eq failed) (by decide)

theorem kernelFrames_readEvents (answers : List ReadAnswer) (s : Socket) (told : List Event)
    (silent : ∀ e ∈ told, e.handed = none) :
    kernelFrames (s.readEvents answers ++ told) = handedFrames (s.readResult answers).calls := by
  have none : kernelFrames told = [] := List.filterMap_eq_nil_iff.mpr silent
  rw [kernelFrames_append, none, List.append_nil]
  exact kernelFrames_calls _ _ _

theorem sentBytes_readEvents (answers : List ReadAnswer) (s : Socket) (told : List Event)
    (silent : ∀ e ∈ told, e.sentBytes = []) : sentBytes (s.readEvents answers ++ told) = [] := by
  refine List.flatMap_eq_nil_iff.mpr fun e mem => ?_
  rcases List.mem_append.mp mem with mem | mem
  · rcases List.mem_cons.mp mem with rfl | mem
    · rfl
    · obtain ⟨call, _, rfl⟩ := List.mem_map.mp mem
      rfl
  · exact silent e mem

/-- What a raw socket keeps of a read that would block: the frames it was handed before. -/
theorem readReceived_leftForRetry {options : CanRawOptions} {answers : List ReadAnswer} {s : Socket}
    (raw : s.protocol = .raw options) (blocked : .EAGAIN ∈ failures (s.readEvents answers)) :
    LeftForRetry s (s.readReceived answers) := by
  obtain ⟨ok, room⟩ := raw_read_blocked raw blocked
  obtain ⟨buffer, added⟩ := s.readReceived_eq answers
  have told : ∀ e ∈ (if s.emittedReadyRead = false ∧ (s.readResult answers).data ≠ [] then
      [Event.signal .readyRead] else []), e = .signal .readyRead := by
    intro e mem
    split at mem
    · exact List.mem_singleton.mp mem
    · cases mem
  have data : (s.readResult answers).data = (handedFrames (s.readResult answers).calls).flatMap tagFrame := by
    rw [Socket.readResult_raw raw answers] at ok ⊢
    exact readLoop_data ok
  have notFull : ¬(s.readBufferMaxSize ≠ 0 ∧
      ((s.buffer ++ (s.readResult answers).data).length : Int) = s.readBufferMaxSize) := by
    rintro ⟨limited, full⟩
    have below := s.roomToRead_limited limited
    rw [List.length_append] at full
    omega
  refine ⟨fun code mem => ?_, ?_, ?_, ?_, ?_, ?_⟩
  · rw [added] at mem
    rcases List.mem_append.mp mem with mem | mem
    · exact signal_not_mem_readEvents answers s _ mem
    · cases told _ mem
  · rw [Socket.readReceived, Socket.disableIfFull_notifier]
    rfl
  · have frames : kernelFrames (s.added (s.readReceived answers)) = handedFrames (s.readResult answers).calls := by
      rw [added]
      exact kernelFrames_readEvents answers s _ fun e mem => by rw [told e mem]; rfl
    have received : (s.readResult answers).data = taggedBytes (s.added (s.readReceived answers)) := by
      rw [data, taggedBytes, frames]
    rw [buffer, raw, received]
    rfl
  · rw [added, sentBytes_readEvents answers s _ fun e mem => by rw [told e mem]; rfl,
      Socket.readReceived, Socket.disableIfFull_notifier]
    rfl
  · intro on
    rw [Socket.readReceived, Socket.disableIfFull, Socket.afterRead, if_neg notFull]
    exact on
  · intro on
    rw [Socket.readReceived, Socket.disableIfFull_notifier]
    exact on

theorem readFailed_not_leftForRetry (answers : List ReadAnswer) (s : Socket) :
    ¬LeftForRetry s (s.readFailed answers) := by
  intro left
  obtain ⟨_, added⟩ := s.readFailed_eq answers
  have silent := left.silent
  rw [added] at silent
  exact silent _ (List.mem_append_right _ (List.mem_singleton_self _))

theorem startAsyncWrite_not_leftForRetry {env : WriteEnv} {s : Socket}
    (blocks : .EAGAIN ∈ failures (s.added (s.startAsyncWrite Slot.idle env).2)) :
    ¬LeftForRetry s (s.startAsyncWrite Slot.idle env).2 := by
  have going : ¬(s.writeBuffer = [] ∨ s.writeSequenceStarted = true) := by
    intro still
    rw [Socket.startAsyncWrite, if_pos still, Socket.added, List.drop_length] at blocks
    cases blocks
  obtain ⟨waiting, idle⟩ := not_or.mp going
  have step := startAsyncWrite_step env waiting (by simpa using idle)
  generalize s.startAsyncWrite Slot.idle env = r at step blocks ⊢
  cases step with
  | failed _ =>
    intro left
    have added : s.added (s.writeFailed env) = _ := Socket.added_of_append (List.append_assoc _ _ _)
    have silent := left.silent
    rw [added] at silent
    exact silent _ (List.mem_append_right _ (List.mem_singleton_self _))
  | sent n notifier ret _ _ =>
    have added : s.added (s.writeSent env n notifier) = _ := Socket.added_of_append (List.append_assoc _ _ _)
    rw [added, failures_append] at blocks
    have blocked : .EAGAIN ∈ failures (s.writeEvents env) := by simpa [failures, Event.failure] using blocks
    have failed := write_blocked blocked
    omega

/-- A transfer that would block leaves everything for a retry exactly if it is the read of a raw socket. -/
theorem would_block_tolerated_iff {transfer : Transfer} {s : Socket} (blocks : s.Blocks transfer) :
    LeftForRetry s (s.transfer transfer).2 ↔
      (∃ answers, transfer = .readNotification answers) ∧ ∃ options, s.protocol = .raw options := by
  unfold Socket.Blocks at blocks
  cases transfer with
  | readNotification answers =>
    have step := readNotification_step answers s
    unfold Socket.transfer at blocks ⊢
    dsimp only at blocks ⊢
    generalize s.readNotification Slot.idle answers = r at step blocks ⊢
    cases step with
    | full _ _ =>
      rw [s.readOff_eq.2] at blocks
      cases blocks
    | failed _ failed =>
      rw [(s.readFailed_eq answers).2, failures_append] at blocks
      refine iff_of_false (readFailed_not_leftForRetry answers s) ?_
      rintro ⟨_, options, raw⟩
      have blocked : .EAGAIN ∈ failures (s.readEvents answers) := by simpa [failures, Event.failure] using blocks
      have ok := (raw_read_blocked raw blocked).1
      omega
    | received _ stored =>
      rw [(s.readReceived_eq answers).2, failures_append] at blocks
      have blocked : .EAGAIN ∈ failures (s.readEvents answers) := by
        rcases List.mem_append.mp blocks with blocked | told
        · exact blocked
        · split at told <;> cases told
      cases protocol : s.protocol with
      | raw options =>
        exact iff_of_true (readReceived_leftForRetry protocol blocked) ⟨⟨answers, rfl⟩, options, rfl⟩
      | isoTp fields =>
        have failed := isoTp_read_blocked protocol blocked
        omega
  | startAsyncWrite env =>
    refine iff_of_false (startAsyncWrite_not_leftForRetry blocks) ?_
    rintro ⟨⟨answers, same⟩, _⟩
    cases same

instance (transfer : Transfer) (s : Socket) : Decidable (s.Blocks transfer) := inferInstanceAs (Decidable (_ ∈ _))

set_option maxRecDepth 8000 in
theorem would_block_tolerated_iff_frame :
    LeftForRetry (.connected (.raw {}) 3) (Socket.transfer (.connected (.raw {}) 3)
        (.readNotification [.got (twoFrames.take 16), .fail .EAGAIN])).2 ↔
      (∃ answers, Transfer.readNotification [.got (twoFrames.take 16), .fail .EAGAIN] = .readNotification answers) ∧
        ∃ options, (Socket.connected (.raw {}) 3).protocol = .raw options :=
  would_block_tolerated_iff (by decide)

set_option maxRecDepth 8000 in
/-- A raw socket sends the first of two frames and would block on the second: an error is told, and
both frames stay queued. -/
theorem would_block_fails :
    let s := (Socket.connected (.raw {}) 3).step (.write twoFrames)
    let t := (s.transfer (.startAsyncWrite ⟨32, [.all, .fail .EAGAIN]⟩)).2
    s.state = .connectedState ∧ s.Blocks (.startAsyncWrite ⟨32, [.all, .fail .EAGAIN]⟩) ∧
      .signal (.error .writeError) ∈ s.added t ∧ sentBytes (s.added t) = twoFrames.take 16 ∧
      t.writeBuffer = twoFrames ∧ ¬LeftForRetry s t := by
  intro s t
  have told : .signal (.error .writeError) ∈ s.added t := by decide
  exact ⟨by decide, by decide, told, by decide, by decide, fun left => left.silent _ told⟩

end CanSocket
