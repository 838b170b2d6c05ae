import CanSocket.Channel
import CanSocket.StreamCodec
import CanSocket.WriteSide

namespace CanSocket

open StreamCodec

def Event.queuedBytes : Event → List UInt8
  | .queued data => data
  | _ => []

def Event.sentBytes : Event → List UInt8
  | .write _ call => call.answer.taken call.bytes
  | _ => []

def queuedBytes (trace : List Event) : List UInt8 := trace.flatMap Event.queuedBytes
def sentBytes (trace : List Event) : List UInt8 := trace.flatMap Event.sentBytes

/-- Every block handed to `writeToSocket` met a clean series of answers. -/
def CleanSends (fd : FlexibleDataRateFrames) (trace : List Event) : Prop :=
  ∀ emitting block answers, Event.writeToSocket emitting block answers ∈ trace →
    WriteBatchClean fd block answers

theorem queuedBytes_filter (trace : List Event) :
    queuedBytes (trace.filter Event.onWriteSide) = queuedBytes trace := by
  apply flatMap_filter
  intro e h
  cases e <;> first | rfl | cases h

theorem sentBytes_filter (trace : List Event) :
    sentBytes (trace.filter Event.onWriteSide) = sentBytes trace := by
  apply flatMap_filter
  intro e h
  cases e <;> first | rfl | cases h

theorem sentBytes_calls (descriptor : Int) (calls : List WriteCall) :
    sentBytes (calls.map (Event.write descriptor)) = acceptedBytes calls := by
  rw [sentBytes, List.flatMap_map]
  rfl

/-- The write side of a raw socket, seen as a channel onto the bus: as long as all batches
are clean it carries every byte once and in order, after that it has sent too much. -/
structure SendsOnce (options : CanRawOptions) (s : Socket) : Prop where
  protocol : s.protocol = .raw options
  account : CleanSends options.flexibleDataRateFrames s.trace ∧
      (∃ ch : Channel UInt8, ch.Shows (queuedBytes s.trace) (sentBytes s.trace) s.writeBuffer) ∨
    ¬CleanSends options.flexibleDataRateFrames s.trace ∧
      (queuedBytes s.trace).length < (sentBytes s.trace).length + s.writeBuffer.length

variable {options : CanRawOptions}

theorem SendsOnce.congr {s t : Socket} (h : SendsOnce options s) (protocol : t.protocol = s.protocol)
    (writeBuffer : t.writeBuffer = s.writeBuffer) (queued : queuedBytes t.trace = queuedBytes s.trace)
    (sent : sentBytes t.trace = sentBytes s.trace)
    (batches : ∀ emitting block answers, Event.writeToSocket emitting block answers ∈ t.trace ↔
      Event.writeToSocket emitting block answers ∈ s.trace) : SendsOnce options t := by
  have clean : CleanSends options.flexibleDataRateFrames t.trace ↔
      CleanSends options.flexibleDataRateFrames s.trace := by
    simp only [CleanSends, batches]
  refine ⟨protocol.trans h.protocol, ?_⟩
  rw [clean, queued, sent, writeBuffer]
  exact h.account

/-- Notifiers, flags and counters do not bear on the account. -/
theorem SendsOnce.same_bytes {s t : Socket} (h : SendsOnce options s)
    (same : (t.protocol, t.writeBuffer, t.trace) = (s.protocol, s.writeBuffer, s.trace)) :
    SendsOnce options t := by
  obtain ⟨protocol, writeBuffer, trace⟩ :
      t.protocol = s.protocol ∧ t.writeBuffer = s.writeBuffer ∧ t.trace = s.trace := by
    simpa using same
  apply h.congr protocol writeBuffer <;> simp [trace]

theorem SendsOnce.same {s t : Socket} (h : SendsOnce options s)
    (same : t.writeView.unnotified = s.writeView.unnotified) : SendsOnce options t := by
  have trace : t.trace.filter Event.onWriteSide = s.trace.filter Event.onWriteSide :=
    congrArg WriteView.trace same
  refine h.congr (congrArg WriteView.protocol same) (congrArg WriteView.writeBuffer same) ?_ ?_ ?_
  · rw [← queuedBytes_filter t.trace, trace, queuedBytes_filter]
  · rw [← sentBytes_filter t.trace, trace, sentBytes_filter]
  · intro emitting block answers
    have side : ∀ trace : List Event, Event.writeToSocket emitting block answers ∈ trace ↔
        Event.writeToSocket emitting block answers ∈ trace.filter Event.onWriteSide := by
      simp [List.mem_filter, Event.onWriteSide]
    rw [side t.trace, trace, ← side]

theorem SendsOnce.log {s : Socket} (h : SendsOnce options s) {e : Event} (queued : e.queuedBytes = [])
    (sent : e.sentBytes = []) (other : ∀ emitting block answers, e ≠ .writeToSocket emitting block answers) :
    SendsOnce options (s.log e) := by
  refine h.congr rfl rfl ?_ ?_ ?_
  · simp [Socket.log, queuedBytes, queued]
  · simp [Socket.log, sentBytes, sent]
  · intro emitting block answers
    simp [Socket.log, (other emitting block answers).symm]

theorem SendsOnce.queued {s : Socket} (h : SendsOnce options s) (data : List UInt8) :
    SendsOnce options (({ s with writeBuffer := s.writeBuffer ++ data }).log (.queued data)) := by
  have queued : queuedBytes (s.trace ++ [.queued data]) = queuedBytes s.trace ++ data := by
    simp [queuedBytes, Event.queuedBytes]
  have sent : sentBytes (s.trace ++ [.queued data]) = sentBytes s.trace := by
    simp [sentBytes, Event.sentBytes]
  have clean : CleanSends options.flexibleDataRateFrames (s.trace ++ [.queued data]) ↔
      CleanSends options.flexibleDataRateFrames s.trace := by
    simp [CleanSends]
  refine ⟨h.protocol, ?_⟩
  simp only [Socket.log, queued, sent, clean]
  rcases h.account with ⟨all, ch, shows⟩ | ⟨dirty, excess⟩
  · exact Or.inl ⟨all, ch.offer data, shows.offer data⟩
  · exact Or.inr ⟨dirty, by simp only [List.length_append]; omega⟩

theorem sendBlock_queued (env : WriteEnv) (s : Socket) :
    queuedBytes (s.sendBlock env).trace = queuedBytes s.trace := by
  simp [Socket.sendBlock, Socket.setErrno, queuedBytes, Event.queuedBytes, List.flatMap_map]

theorem sendBlock_sent (env : WriteEnv) (s : Socket) :
    sentBytes (s.sendBlock env).trace = sentBytes s.trace ++ acceptedBytes (s.writeResult env).calls := by
  rw [← sentBytes_calls s.descriptor]
  simp [Socket.sendBlock, Socket.setErrno, sentBytes, Event.sentBytes]

theorem sendBlock_clean {fd : FlexibleDataRateFrames} (env : WriteEnv) (s : Socket) :
    CleanSends fd (s.sendBlock env).trace ↔
      CleanSends fd s.trace ∧ WriteBatchClean fd (s.nextDataBlock env) (s.writeAnswers env.answers) := by
  simp only [CleanSends, Socket.sendBlock, Socket.setErrno, List.mem_append, List.mem_cons, List.mem_map,
    reduceCtorEq, and_false, exists_false, or_false, Event.writeToSocket.injEq]
  constructor
  · intro h
    exact ⟨fun e b a ha => h e b a (Or.inl ha), h _ _ _ (Or.inr ⟨rfl, rfl, rfl⟩)⟩
  · rintro ⟨before, now⟩ e b a (ha | ⟨rfl, rfl, rfl⟩)
    · exact before e b a ha
    · exact now

theorem SendsOnce.writeResult {s : Socket} (h : SendsOnce options s) (env : WriteEnv) :
    s.writeResult env = rawWriteToSocket options.flexibleDataRateFrames (s.nextDataBlock env)
      (s.writeAnswers env.answers) := by
  rw [Socket.writeResult, h.protocol]
  rfl

theorem SendsOnce.failed {s : Socket} (h : SendsOnce options s) {env : WriteEnv}
    (failed : (s.writeResult env).ret < 0) : SendsOnce options (s.sendBlock env) := by
  have exact_clean := @rawWriteToSocket_clean_iff options.flexibleDataRateFrames (s.nextDataBlock env)
    (s.writeAnswers env.answers)
  rw [← h.writeResult] at exact_clean
  refine ⟨h.protocol, ?_⟩
  rw [sendBlock_queued, sendBlock_sent, sendBlock_clean]
  have kept : (s.sendBlock env).writeBuffer = s.writeBuffer := rfl
  rw [kept]
  by_cases nothing : acceptedBytes (s.writeResult env).calls = []
  · have clean := exact_clean.mpr (Or.inr nothing)
    simpa [clean, nothing] using h.account
  · have dirty := mt exact_clean.mp (not_or.mpr ⟨Int.not_le.mpr failed, nothing⟩)
    have positive : 0 < (acceptedBytes (s.writeResult env).calls).length := List.length_pos_iff.mpr nothing
    right
    refine ⟨fun both => dirty both.2, ?_⟩
    rw [List.length_append]
    rcases h.account with ⟨_, ch, shows⟩ | ⟨_, excess⟩
    · have total := congrArg List.length shows.conserved
      rw [List.length_append] at total
      omega
    · omega

theorem SendsOnce.sent {s : Socket} (h : SendsOnce options s) {env : WriteEnv} {n : Nat}
    (ret : (s.writeResult env).ret = n) (bound : n ≤ (s.nextDataBlock env).length)
    (taken : acceptedBytes (s.writeResult env).calls = (s.nextDataBlock env).take n) :
    SendsOnce options ((s.sendBlock env).freeWritten n) := by
  have clean : WriteBatchClean options.flexibleDataRateFrames (s.nextDataBlock env)
      (s.writeAnswers env.answers) := by
    apply rawWriteToSocket_clean_iff.mpr
    rw [← h.writeResult]
    left
    omega
  have front := Socket.nextDataBlock_take bound
  have freed : SendsOnce options
      { s.sendBlock env with writeBuffer := s.writeBuffer.drop n } := by
    refine ⟨h.protocol, ?_⟩
    dsimp only
    rw [sendBlock_queued, sendBlock_sent, sendBlock_clean, taken, front]
    rcases h.account with ⟨all, ch, shows⟩ | ⟨dirty, excess⟩
    · exact Or.inl ⟨⟨all, clean⟩, ch.deliver n, shows.deliver n⟩
    · refine Or.inr ⟨fun both => dirty both.1, ?_⟩
      simp only [List.length_append, List.length_take, List.length_drop]
      omega
  exact (freed.log (e := .freed n) rfl rfl (by simp)).same_bytes rfl

theorem SendsOnce.announced {slot : Slot} (slots : ∀ sig s, SendsOnce options s → SendsOnce options (slot sig s))
    {s : Socket} (h : SendsOnce options s) : SendsOnce options (s.announced slot) :=
  Socket.announced_keeps slots SendsOnce.same_bytes (fun _ _ h => h.log rfl rfl (by simp)) h

theorem sendsOnce_bytes (options : CanRawOptions) :
    WriteBytesKeep fun s t => SendsOnce options s → SendsOnce options t where
  trans first second h := second (first h)
  same same h := h.same same
  queued data _ h := h.queued data
  announced _ slots _ h := h.announced slots
  failed _ failed h := h.failed failed
  sent _ ret bound taken h := h.sent ret bound taken

theorem JustConnected.sendsOnce {s : Socket} (start : JustConnected s) (raw : s.protocol = .raw options) :
    SendsOnce options s := by
  refine ⟨raw, Or.inl ⟨?_, .empty, ?_⟩⟩
  · simp [CleanSends, start.trace]
  · rw [start.trace, start.writeBuffer]
    exact Channel.shows_empty

/-- In every run of a connected raw socket, its slots calling back to any depth, the bytes on
the bus followed by the queue are the payloads written if and only if all batches were clean. -/
theorem sent_once_iff {script : Script} {s : Socket} (start : JustConnected s)
    (raw : s.protocol = .raw options) (on : script.All Call.OnConnection fun _ => False) :
    sentBytes (script.exec s).trace ++ (script.exec s).writeBuffer = queuedBytes (script.exec s).trace ↔
      CleanSends options.flexibleDataRateFrames (script.exec s).trace := by
  have reached := (sendsOnce_bytes options).writeSide.script on s (start.sendsOnce raw)
  rcases reached.account with ⟨clean, ch, shows⟩ | ⟨dirty, excess⟩
  · exact iff_of_true shows.conserved clean
  · refine iff_of_false ?_ dirty
    intro eq
    have total := congrArg List.length eq
    rw [List.length_append] at total
    omega

theorem sent_once_iff_twoFrames :
    let s := Script.exec (.ofList [.write twoFrames, .flush ⟨32, [.all, .all]⟩]) (.connected (.raw {}) 3)
    sentBytes s.trace ++ s.writeBuffer = queuedBytes s.trace ↔ CleanSends .disabledFdFrames s.trace :=
  sent_once_iff justConnected_raw rfl (CallRun.Script.all_ofList (by simp [Call.OnConnection]))

/-- The second frame is refused when the first is out already, which then goes out again. -/
theorem sent_once_fails :
    let s := Script.exec (.ofList [.write twoFrames, .flush ⟨32, [.all, .fail .EAGAIN]⟩,
      .flush ⟨32, [.all, .all]⟩]) (.connected (.raw {}) 3)
    sentBytes s.trace = twoFrames.take 16 ++ twoFrames ∧ queuedBytes s.trace = twoFrames ∧
      sentBytes s.trace ++ s.writeBuffer ≠ queuedBytes s.trace := by
  decide

end CanSocket
