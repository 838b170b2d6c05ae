import CanSocket.History
import CanSocket.SendOnce

namespace CanSocket

open History StreamCodec

def Event.payload : Event → Option (List UInt8)
  | .queued data => some data
  | _ => none

/-- The message a `::write` on a datagram socket was, if the kernel took it. -/
def Event.acceptedMessage : Event → Option (List UInt8)
  | .write _ call => if call.answer = .all then some call.bytes else none
  | _ => none

def payloads (trace : List Event) : List (List UInt8) := trace.filterMap Event.payload
def acceptedMessages (trace : List Event) : List (List UInt8) := trace.filterMap Event.acceptedMessage

/-- The kernel takes the bytes of a `::write` as one message, or none of them. -/
def Event.takenWhole : Event → Bool
  | .write _ ⟨_, _, .count _⟩ => false
  | _ => true

/-- A payload is written when all before it is sent, and sent in one block. -/
def AloneAfter (before : List Event) (e : Event) : Prop :=
  match e with
  | .queued _ => sentBytes before = queuedBytes before
  | .write _ call => (sentBytes before).length + call.bytes.length = (queuedBytes before).length
  | _ => True

/-- What is handed to the kernel comes next in what was queued. -/
def NextAfter (before : List Event) (e : Event) : Prop :=
  match e with
  | .write _ call => call.bytes ≠ [] ∧ ∃ rest, queuedBytes before = sentBytes before ++ call.bytes ++ rest
  | _ => True

/-- All that counts of the past is what was queued and what was sent. -/
theorem nextAfter_congr {before after : List Event} {e : Event}
    (same : (queuedBytes before, sentBytes before) = (queuedBytes after, sentBytes after))
    (h : NextAfter before e) : NextAfter after e := by
  obtain ⟨queued, sent⟩ := Prod.mk.inj same
  cases e with
  | write descriptor call =>
    obtain ⟨some, rest, ahead⟩ := h
    exact ⟨some, rest, by rw [← queued, ← sent, ahead]⟩
  | _ => trivial

theorem flatten_filterMap {α β : Type} (f : α → Option (List β)) (as : List α) :
    (as.filterMap f).flatten = as.flatMap fun a => (f a).getD [] := by
  induction as with
  | nil => rfl
  | cons a as ih => cases h : f a <;> simp [h, ih]

theorem queuedBytes_payloads (trace : List Event) : queuedBytes trace = (payloads trace).flatten := by
  rw [payloads, flatten_filterMap]
  apply List.flatMap_congr
  intro e _
  cases e <;> rfl

theorem takenWhole_cases {descriptor : Int} {call : WriteCall}
    (whole : (Event.write descriptor call).takenWhole = true) : call.answer = .all ∨ ∃ e, call.answer = .fail e := by
  obtain ⟨offset, bytes, answer⟩ := call
  cases answer with
  | all => exact Or.inl rfl
  | count n => cases whole
  | fail e => exact Or.inr ⟨e, rfl⟩

theorem sentBytes_acceptedMessages {trace : List Event} (whole : ∀ e ∈ trace, e.takenWhole = true) :
    sentBytes trace = (acceptedMessages trace).flatten := by
  rw [acceptedMessages, flatten_filterMap]
  apply List.flatMap_congr
  intro e mem
  cases e with
  | write _ call =>
    rcases takenWhole_cases (whole _ mem) with all | ⟨errno, fail⟩
    · simp [Event.sentBytes, Event.acceptedMessage, all, WriteAnswer.taken]
    · simp [Event.sentBytes, Event.acceptedMessage, fail, WriteAnswer.taken]
  | _ => rfl

/-- Where payloads go one at a time, at most the last one is not yet a message. -/
theorem alone_cases {trace : List Event} (whole : ∀ e ∈ trace, e.takenWhole = true) (some : ∀ p ∈ payloads trace, p ≠ [])
    (next : EachAfter NextAfter trace) (alone : EachAfter AloneAfter trace) :
    (acceptedMessages trace = payloads trace ∧ sentBytes trace = queuedBytes trace) ∨
      ∃ p, payloads trace = acceptedMessages trace ++ [p] ∧ queuedBytes trace = sentBytes trace ++ p := by
  induction trace using List.reverseRecOn with
  | nil => exact Or.inl ⟨rfl, rfl⟩
  | append_singleton trace e ih =>
    obtain ⟨next, comes⟩ := (eachAfter_concat trace e).mp next
    obtain ⟨alone, now⟩ := (eachAfter_concat trace e).mp alone
    have before := ih (fun e mem => whole e (by simp [mem]))
      (fun p mem => some p (by simp [payloads, List.filterMap_append] at mem ⊢; exact Or.inl mem)) next alone
    have payload : payloads (trace ++ [e]) = payloads trace ++ e.payload.toList := by
      cases h : e.payload <;> simp [payloads, List.filterMap_append, h]
    have message : acceptedMessages (trace ++ [e]) = acceptedMessages trace ++ e.acceptedMessage.toList := by
      cases h : e.acceptedMessage <;> simp [acceptedMessages, List.filterMap_append, h]
    have queued : queuedBytes (trace ++ [e]) = queuedBytes trace ++ e.queuedBytes := by simp [queuedBytes]
    have sent : sentBytes (trace ++ [e]) = sentBytes trace ++ e.sentBytes := by simp [sentBytes]
    rw [payload, message, queued, sent]
    cases e with
    | queued data =>
      have now : sentBytes trace = queuedBytes trace := now
      rcases before with ⟨same, _⟩ | ⟨p, listed, waiting⟩
      · exact Or.inr ⟨data, by simp [Event.payload, Event.acceptedMessage, same],
          by simp [Event.queuedBytes, Event.sentBytes, now]⟩
      · have nonempty : p ≠ [] := some p (by rw [payload, listed]; simp)
        rw [now] at waiting
        exact absurd (List.self_eq_append_right.mp waiting) nonempty
    | write descriptor call =>
      obtain ⟨nonempty, rest, ahead⟩ := comes
      have now : (sentBytes trace).length + call.bytes.length = (queuedBytes trace).length := now
      have positive : 0 < call.bytes.length := List.length_pos_iff.mpr nonempty
      rcases before with ⟨_, same⟩ | ⟨p, listed, waiting⟩
      · rw [same] at now
        omega
      · have block : p = call.bytes := by
          rw [waiting, List.append_assoc, List.append_cancel_left_eq] at ahead
          rw [waiting, List.length_append, ahead, List.length_append] at now
          have none : rest = [] := List.length_eq_zero_iff.mp (by omega)
          rw [ahead, none, List.append_nil]
        subst block
        rcases takenWhole_cases (whole (.write descriptor call) (by simp)) with all | ⟨errno, fail⟩
        · left
          simp [Event.payload, Event.acceptedMessage, Event.queuedBytes, Event.sentBytes, all,
            WriteAnswer.taken, listed, waiting]
        · right
          refine ⟨call.bytes, ?_, ?_⟩
          · simp [Event.payload, Event.acceptedMessage, fail, listed]
          · simp [Event.queuedBytes, Event.sentBytes, fail, WriteAnswer.taken, waiting]
    | _ => simpa [Event.payload, Event.acceptedMessage, Event.queuedBytes, Event.sentBytes] using before

/-- All calls of one `writeToSocket` hand over the block, and all but the last are interrupted. -/
theorem isoTpWriteToSocket_calls (data : List UInt8) (answers : List WriteAnswer) :
    ∃ interrupted last, (isoTpWriteToSocket data answers).calls = interrupted ++ [last] ∧
      (∀ call ∈ interrupted, ∃ e, call.answer = .fail e) ∧
      (∀ call ∈ interrupted ++ [last], call.bytes = data) ∧
      ((isoTpWriteToSocket data answers).ret < 0 → ∃ e, last.answer = .fail e) := by
  induction answers with
  | nil => exact ⟨[], _, rfl, nofun, by simp, fun _ => ⟨_, rfl⟩⟩
  | cons answer answers ih =>
    cases answer with
    | all => exact ⟨[], _, rfl, nofun, by simp, fun failed => absurd failed (by simp [isoTpWriteToSocket])⟩
    | count n => exact ⟨[], _, rfl, nofun, by simp, fun failed => absurd failed (by simp [isoTpWriteToSocket])⟩
    | fail e =>
      unfold isoTpWriteToSocket
      split
      next =>
        obtain ⟨interrupted, last, calls, fails, bytes, failed⟩ := ih
        dsimp only
        rw [calls]
        refine ⟨⟨0, data, .fail e⟩ :: interrupted, last, rfl, ?_, ?_, failed⟩
        · intro call mem
          rcases List.mem_cons.mp mem with rfl | later
          · exact ⟨e, rfl⟩
          · exact fails call later
        · intro call mem
          rcases List.mem_cons.mp mem with rfl | later
          · rfl
          · exact bytes call later
      next => exact ⟨[], _, rfl, nofun, by simp, fun _ => ⟨_, rfl⟩⟩

/-- The write side of an ISO-TP socket, seen as a channel of bytes, with each `::write` at its head. -/
structure SendsInOrder (f : CanIsoTpFields) (s : Socket) : Prop where
  protocol : s.protocol = .isoTp f
  account : queuedBytes s.trace = sentBytes s.trace ++ s.writeBuffer
  next : EachAfter NextAfter s.trace

variable {f : CanIsoTpFields}

theorem next_filter (trace : List Event) :
    EachAfter NextAfter (trace.filter Event.onWriteSide) ↔ EachAfter NextAfter trace := by
  apply eachAfter_filter
  · intro before e off
    cases e <;> trivial
  · intro before e
    cases e <;> simp [NextAfter, sentBytes_filter, queuedBytes_filter]

theorem SendsInOrder.same {s t : Socket} (h : SendsInOrder f s)
    (same : t.writeView.unnotified = s.writeView.unnotified) : SendsInOrder f t := by
  have writeBuffer : t.writeBuffer = s.writeBuffer := congrArg WriteView.writeBuffer same
  have trace : t.trace.filter Event.onWriteSide = s.trace.filter Event.onWriteSide :=
    congrArg WriteView.trace same
  refine ⟨(congrArg WriteView.protocol same).trans h.protocol, ?_, ?_⟩
  · rw [← queuedBytes_filter, ← sentBytes_filter, trace, queuedBytes_filter, sentBytes_filter, writeBuffer]
    exact h.account
  · rw [← next_filter, trace, next_filter]
    exact h.next

/-- Notifiers, flags and counters do not bear on the channel. -/
theorem SendsInOrder.same_bytes {s t : Socket} (h : SendsInOrder f s)
    (same : (t.protocol, t.writeBuffer, t.trace) = (s.protocol, s.writeBuffer, s.trace)) :
    SendsInOrder f t := by
  obtain ⟨protocol, writeBuffer, trace⟩ :
      t.protocol = s.protocol ∧ t.writeBuffer = s.writeBuffer ∧ t.trace = s.trace := by
    simpa using same
  refine ⟨protocol.trans h.protocol, ?_, ?_⟩
  · rw [trace, writeBuffer]
    exact h.account
  · rw [trace]
    exact h.next

theorem SendsInOrder.log {s : Socket} (h : SendsInOrder f s) {e : Event} (queued : e.queuedBytes = [])
    (sent : e.sentBytes = []) (other : NextAfter s.trace e) : SendsInOrder f (s.log e) := by
  refine ⟨h.protocol, ?_, (eachAfter_concat _ _).mpr ⟨h.next, other⟩⟩
  simpa [Socket.log, queuedBytes, sentBytes, queued, sent] using h.account

theorem SendsInOrder.queued {s : Socket} (h : SendsInOrder f s) (data : List UInt8) :
    SendsInOrder f (({ s with writeBuffer := s.writeBuffer ++ data }).log (.queued data)) := by
  have queued : queuedBytes (s.trace ++ [.queued data]) = queuedBytes s.trace ++ data := by
    simp [queuedBytes, Event.queuedBytes]
  have sent : sentBytes (s.trace ++ [.queued data]) = sentBytes s.trace := by
    simp [sentBytes, Event.sentBytes]
  refine ⟨h.protocol, ?_, (eachAfter_concat _ _).mpr ⟨h.next, trivial⟩⟩
  simp only [Socket.log, queued, sent, h.account, List.append_assoc]

/-- As long as its calls are interrupted a sending step hands over the same block again. -/
theorem next_calls {trace : List Event} {descriptor : Int} {block rest : List UInt8} {interrupted : List WriteCall}
    {last : WriteCall} (next : EachAfter NextAfter trace) (some : block ≠ [])
    (ahead : queuedBytes trace = sentBytes trace ++ block ++ rest)
    (fails : ∀ call ∈ interrupted, ∃ e, call.answer = .fail e)
    (bytes : ∀ call ∈ interrupted ++ [last], call.bytes = block) :
    EachAfter NextAfter (trace ++ (interrupted ++ [last]).map (Event.write descriptor)) := by
  have here : ∀ call ∈ interrupted ++ [last], NextAfter trace (.write descriptor call) := by
    intro call mem
    have same := bytes call mem
    exact ⟨by rwa [same], rest, by rwa [same]⟩
  have retried := next.append_still (fun before => (queuedBytes before, sentBytes before))
    (interrupted.map (Event.write descriptor)) ?_ ?_ ?_
  · have final := nextAfter_congr retried.2.symm (here last (by simp))
    rw [List.map_append, ← List.append_assoc]
    exact (eachAfter_concat _ _).mpr ⟨retried.1, final⟩
  · exact fun _ _ _ => nextAfter_congr
  · intro e mem before
    obtain ⟨call, called, rfl⟩ := List.mem_map.mp mem
    obtain ⟨errno, failed⟩ := fails call called
    simp [queuedBytes, sentBytes, Event.queuedBytes, Event.sentBytes, failed, WriteAnswer.taken]
  · intro e mem
    obtain ⟨call, called, rfl⟩ := List.mem_map.mp mem
    exact here call (by simp [called])

theorem SendsInOrder.writeResult {s : Socket} (h : SendsInOrder f s) (env : WriteEnv) :
    s.writeResult env = isoTpWriteToSocket (s.nextDataBlock env) (s.writeAnswers env.answers) := by
  rw [Socket.writeResult, h.protocol]
  rfl

theorem SendsInOrder.handed {s : Socket} (h : SendsInOrder f s) (waiting : s.writeBuffer ≠ []) (env : WriteEnv) :
    EachAfter NextAfter (s.sendBlock env).trace := by
  obtain ⟨interrupted, last, calls, fails, bytes, _⟩ :=
    isoTpWriteToSocket_calls (s.nextDataBlock env) (s.writeAnswers env.answers)
  rw [← h.writeResult] at calls
  have some := Socket.nextDataBlock_ne_nil env waiting
  have begun : EachAfter NextAfter (s.trace ++ [.writeToSocket s.emittedBytesWritten (s.nextDataBlock env)
      (s.writeAnswers env.answers)]) := (eachAfter_concat _ _).mpr ⟨h.next, trivial⟩
  have ahead : queuedBytes s.trace = sentBytes s.trace ++ s.nextDataBlock env ++
      s.writeBuffer.drop (s.nextDataBlockSize env) := by
    rw [h.account, List.append_assoc, Socket.nextDataBlock, List.take_append_drop]
  have handed := @next_calls _ s.descriptor (s.nextDataBlock env) (s.writeBuffer.drop (s.nextDataBlockSize env))
    interrupted last begun some (by simpa [queuedBytes, sentBytes, Event.queuedBytes, Event.sentBytes] using ahead)
    fails bytes
  rw [← calls, List.append_assoc] at handed
  exact handed

theorem SendsInOrder.failed {s : Socket} (h : SendsInOrder f s) (waiting : s.writeBuffer ≠ []) {env : WriteEnv}
    (failed : (s.writeResult env).ret < 0) : SendsInOrder f (s.sendBlock env) := by
  refine ⟨h.protocol, ?_, h.handed waiting env⟩
  have nothing : acceptedBytes (s.writeResult env).calls = [] := by
    obtain ⟨interrupted, last, calls, fails, _, fail⟩ :=
      isoTpWriteToSocket_calls (s.nextDataBlock env) (s.writeAnswers env.answers)
    rw [h.writeResult] at failed ⊢
    rw [calls, acceptedBytes, List.flatMap_eq_nil_iff]
    intro call mem
    rcases List.mem_append.mp mem with early | final
    · obtain ⟨e, answer⟩ := fails call early
      simp [answer, WriteAnswer.taken]
    · obtain ⟨e, answer⟩ := fail failed
      rw [List.mem_singleton.mp final]
      simp [answer, WriteAnswer.taken]
  rw [sendBlock_queued, sendBlock_sent, nothing, List.append_nil]
  exact h.account

theorem SendsInOrder.sent {s : Socket} (h : SendsInOrder f s) (waiting : s.writeBuffer ≠ []) {env : WriteEnv} {n : Nat}
    (bound : n ≤ (s.nextDataBlock env).length)
    (taken : acceptedBytes (s.writeResult env).calls = (s.nextDataBlock env).take n) :
    SendsInOrder f ((s.sendBlock env).freeWritten n) := by
  have front := Socket.nextDataBlock_take bound
  have freed : SendsInOrder f { s.sendBlock env with writeBuffer := s.writeBuffer.drop n } := by
    refine ⟨h.protocol, ?_, h.handed waiting env⟩
    dsimp only
    rw [sendBlock_queued, sendBlock_sent, taken, front, List.append_assoc, List.take_append_drop]
    exact h.account
  exact (freed.log (e := .freed n) rfl rfl trivial).same_bytes rfl

theorem SendsInOrder.announced {slot : Slot} (slots : ∀ sig s, SendsInOrder f s → SendsInOrder f (slot sig s))
    {s : Socket} (h : SendsInOrder f s) : SendsInOrder f (s.announced slot) :=
  Socket.announced_keeps slots SendsInOrder.same_bytes (fun _ _ h => h.log rfl rfl trivial) h

theorem sendsInOrder_bytes (f : CanIsoTpFields) :
    WriteBytesKeep fun s t => SendsInOrder f s → SendsInOrder f t where
  trans first second h := second (first h)
  same same h := h.same same
  queued data _ h := h.queued data
  announced _ slots _ h := h.announced slots
  failed waiting failed h := h.failed waiting failed
  sent waiting _ bound taken h := h.sent waiting bound taken

/-- In every run of a connected ISO-TP socket over a kernel that takes each `::write` as one
message, its slots calling back to any depth: the bytes of the messages followed by the queue are
those of the payloads, and payloads that go one at a time keep their boundaries. -/
theorem messages_in_order {script : Script} {s : Socket} (start : JustConnected s) (isoTp : s.protocol = .isoTp f)
    (on : script.All Call.OnConnection fun _ => False)
    (whole : ∀ e ∈ (script.exec s).trace, e.takenWhole = true)
    (some : ∀ payload ∈ payloads (script.exec s).trace, payload ≠ []) :
    (acceptedMessages (script.exec s).trace).flatten ++ (script.exec s).writeBuffer =
        (payloads (script.exec s).trace).flatten ∧
      (EachAfter AloneAfter (script.exec s).trace →
        acceptedMessages (script.exec s).trace <+: payloads (script.exec s).trace) := by
  have begins : SendsInOrder f s := by
    refine ⟨isoTp, ?_, ?_⟩
    · rw [start.trace, start.writeBuffer]
      rfl
    · rw [start.trace]
      exact eachAfter_nil
  have reached := (sendsInOrder_bytes f).writeSide.script on s begins
  refine ⟨?_, fun alone => ?_⟩
  · rw [← sentBytes_acceptedMessages whole, ← queuedBytes_payloads, reached.account]
  · rcases alone_cases whole some reached.next alone with ⟨same, _⟩ | ⟨payload, listed, _⟩
    · exact same ▸ List.prefix_rfl
    · exact listed ▸ List.prefix_append _ _

theorem messages_in_order_nested :
    let s := Script.exec (.call (.write [1, 2]) (fun _ _ => .done)
      (.call (.writeNotification ⟨2, [.all]⟩) (fun _ _ => .done)
      (.call (.writeNotification ⟨2, [.fail .EINTR, .all]⟩) (fun _ _ => .ofList [.write [3, 4]]) .done)))
      (.connected (.isoTp (.initial 50000)) 3)
    (acceptedMessages s.trace).flatten ++ s.writeBuffer = (payloads s.trace).flatten ∧
      (EachAfter AloneAfter s.trace → acceptedMessages s.trace <+: payloads s.trace) :=
  messages_in_order ⟨rfl, rfl, rfl, rfl, rfl, rfl, rfl, rfl, rfl, rfl⟩ rfl
    ⟨trivial, fun _ _ => ⟨trivial, False.elim⟩, trivial, fun _ _ => ⟨trivial, False.elim⟩, trivial,
      fun _ _ => ⟨CallRun.Script.all_ofList (by simp [Call.OnConnection]), False.elim⟩, trivial⟩
    (by decide) (by decide)

/-- Two payloads that wait together leave as one message. -/
theorem messages_merged :
    let s := Script.exec (.ofList [.write [1, 2], .write [3, 4], .writeNotification ⟨4, [.all]⟩])
      (.connected (.isoTp (.initial 50000)) 3)
    (∀ e ∈ s.trace, e.takenWhole = true) ∧ payloads s.trace = [[1, 2], [3, 4]] ∧
      acceptedMessages s.trace = [[1, 2, 3, 4]] ∧ ¬acceptedMessages s.trace <+: payloads s.trace := by
  decide

end CanSocket
