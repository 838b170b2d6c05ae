import CanSocket.WriteSide

namespace CanSocket

/-- The write notifier is on as long as something is queued, and outside an emission of
`bytesWritten` exactly as long as something is queued or not yet reported. -/
structure WakesWriter (s : Socket) : Prop where
  pending : 0 ≤ s.pendingBytesWritten
  queued : s.writeBuffer ≠ [] → s.isWriteNotificationEnabled = true
  quiet : s.emittedBytesWritten = false →
    (s.isWriteNotificationEnabled = true ↔ s.writeBuffer ≠ [] ∨ 0 < s.pendingBytesWritten)

structure ReadyToSend (s : Socket) : Prop where
  pending : 0 ≤ s.pendingBytesWritten
  queued : s.writeBuffer ≠ [] → s.isWriteNotificationEnabled = true
  reported : s.emittedBytesWritten = false → s.pendingBytesWritten = 0

def KeepsWriterAwake (s t : Socket) : Prop :=
  t.emittedBytesWritten = s.emittedBytesWritten ∧ (WakesWriter s → WakesWriter t)

theorem WakesWriter.same {s t : Socket} (h : WakesWriter s) (same : t.writeView = s.writeView) :
    WakesWriter t := by
  have writeBuffer : t.writeBuffer = s.writeBuffer := congrArg WriteView.writeBuffer same
  have notifier : t.writeNotifier = s.writeNotifier := congrArg WriteView.writeNotifier same
  have emitted : t.emittedBytesWritten = s.emittedBytesWritten := congrArg WriteView.emittedBytesWritten same
  have pending : t.pendingBytesWritten = s.pendingBytesWritten := congrArg WriteView.pendingBytesWritten same
  have enabled : t.isWriteNotificationEnabled = s.isWriteNotificationEnabled := by
    simp only [Socket.isWriteNotificationEnabled, notifier]
  refine ⟨?_, ?_, ?_⟩
  · rw [pending]
    exact h.pending
  · rw [writeBuffer, enabled]
    exact h.queued
  · rw [writeBuffer, enabled, emitted, pending]
    exact h.quiet

theorem keepsWriterAwake_writeData (data : List UInt8) (s : Socket) :
    KeepsWriterAwake s (s.writeData data) := by
  unfold Socket.writeData
  dsimp only
  split
  next off =>
    obtain ⟨made, eq⟩ := Socket.setWrite_eq true
      (({ s with writeBuffer := s.writeBuffer ++ data }).log (.queued data))
    have enabled := Socket.setWrite_isWrite true
      (({ s with writeBuffer := s.writeBuffer ++ data }).log (.queued data))
    rw [eq] at enabled ⊢
    exact ⟨rfl, fun h => ⟨h.pending, fun _ => enabled, fun _ => iff_of_true enabled (Or.inl off.1)⟩⟩
  next on =>
    have queued : s.writeBuffer ++ data ≠ [] → s.isWriteNotificationEnabled = true := by
      intro queued
      by_contra off
      have off : s.isWriteNotificationEnabled = false := by simpa using off
      exact on ⟨queued, by rw [Bool.not_eq_true']; exact off⟩
    refine ⟨rfl, fun h => ⟨h.pending, queued, fun quiet => ?_⟩⟩
    by_cases empty : s.writeBuffer ++ data = []
    · have before : s.writeBuffer = [] := (List.append_eq_nil_iff.mp empty).1
      have same : s.writeBuffer ++ data = s.writeBuffer := by rw [empty, before]
      have idle := h.quiet quiet
      rw [← same] at idle
      exact idle
    · exact iff_of_true (queued empty) (Or.inl empty)

theorem announced_emitted (slot : Slot) (s : Socket) :
    (s.announced slot).emittedBytesWritten = s.emittedBytesWritten := by
  unfold Socket.announced Socket.emitBytesWritten
  split
  next report => simpa using report.2.symm
  next => rfl

theorem announced_readyToSend {slot : Slot} (slots : ∀ sig s, KeepsWriterAwake s (slot sig s)) {s : Socket}
    (h : WakesWriter s) : ReadyToSend (s.announced slot) := by
  unfold Socket.announced Socket.emitBytesWritten
  split
  next =>
    have marked : WakesWriter (({ s with emittedBytesWritten := true }).log
        (.signal (.bytesWritten s.pendingBytesWritten))) :=
      ⟨h.pending, h.queued, fun off => by cases off⟩
    have emitted := (slots (.bytesWritten s.pendingBytesWritten) _).2 marked
    exact ⟨Int.le_refl 0, emitted.queued, fun _ => rfl⟩
  next silent =>
    refine ⟨h.pending, h.queued, fun quiet => ?_⟩
    have quiet : s.emittedBytesWritten = false := quiet
    have pending := h.pending
    simp only [quiet, Bool.not_false, and_true] at silent
    dsimp only
    omega

theorem ReadyToSend.finished {s : Socket} (h : ReadyToSend s) (empty : s.writeBuffer = []) :
    WakesWriter (s.setWriteNotificationEnabled false) := by
  have disabled := Socket.setWrite_isWrite false s
  obtain ⟨made, eq⟩ := s.setWrite_eq false
  rw [eq] at disabled ⊢
  refine ⟨h.pending, fun waiting => absurd empty waiting, fun quiet => ?_⟩
  have reported := h.reported quiet
  rw [disabled]
  dsimp only
  simp [empty, reported]

theorem ReadyToSend.failed {s : Socket} (h : ReadyToSend s) (waiting : s.writeBuffer ≠ [])
    (env : WriteEnv) : WakesWriter (s.sendBlock env) :=
  ⟨h.pending, h.queued, fun _ => iff_of_true (h.queued waiting) (Or.inl waiting)⟩

theorem ReadyToSend.sent {s : Socket} (h : ReadyToSend s) (waiting : s.writeBuffer ≠ [])
    (env : WriteEnv) (n : Nat) {made : Option Notifier × List (Nat × Int)}
    (enabled : ({ (s.sendBlock env).freeWritten n with
      writeNotifier := made.1, watched := made.2 } : Socket).isWriteNotificationEnabled = true) :
    WakesWriter { (s.sendBlock env).freeWritten n with writeNotifier := made.1, watched := made.2 } := by
  have pending : (0 : Int) ≤ s.pendingBytesWritten + n := by
    have := h.pending
    omega
  refine ⟨pending, fun _ => enabled, fun quiet => iff_of_true enabled ?_⟩
  have reported := h.reported quiet
  -- a write of nothing at all leaves the queue as it was
  cases n with
  | zero => exact Or.inl waiting
  | succ n => exact Or.inr (show (0 : Int) < s.pendingBytesWritten + (n + 1 : Nat) by omega)

theorem keepsWriterAwake_send {slot : Slot} (slots : ∀ sig s, KeepsWriterAwake s (slot sig s))
    (env : WriteEnv) (s : Socket) : KeepsWriterAwake s (s.completeAsyncWrite slot env).2 := by
  have flag := announced_emitted slot s
  have ready := @announced_readyToSend slot slots s
  rcases s.completeAsyncWrite_cases slot env with ⟨empty, eq⟩ | ⟨waiting, eq⟩
  · have same : ((s.announced slot).setWriteNotificationEnabled false).emittedBytesWritten =
        (s.announced slot).emittedBytesWritten := by
      obtain ⟨made, off⟩ := (s.announced slot).setWrite_eq false
      rw [off]
    rw [eq]
    exact ⟨same.trans flag, fun h => (ready h).finished empty⟩
  · rw [eq]
    rcases (s.announced slot).startAsyncWrite_cases slot env waiting rfl with
      ⟨info, _, eq⟩ | ⟨n, made, _, _, _, eq, enabled⟩
    · have told := slots (.error info.errorCode) (({ (s.announced slot).sendBlock env with
        error := info.errorCode, errorString := info.errorString }).log (.signal (.error info.errorCode)))
      rw [eq]
      refine ⟨told.1.trans flag, fun h => told.2 ?_⟩
      exact ((ready h).failed waiting env).same (Socket.writeView_log rfl _)
    · rw [eq] at enabled ⊢
      exact ⟨flag, fun h => (ready h).sent waiting env n enabled⟩

theorem keepsWriterAwake : WriteSideKeep KeepsWriterAwake where
  trans first second := ⟨second.1.trans first.1, fun h => second.2 (first.2 h)⟩
  same same := ⟨congrArg WriteView.emittedBytesWritten same, fun h => h.same same⟩
  write := keepsWriterAwake_writeData
  send _ slots := keepsWriterAwake_send slots

theorem JustConnected.wakesWriter {s : Socket} (start : JustConnected s) : WakesWriter s := by
  have off : s.isWriteNotificationEnabled = false := by
    simp [Socket.isWriteNotificationEnabled, start.writeNotifier]
  refine ⟨?_, fun waiting => absurd start.writeBuffer waiting, fun _ => ?_⟩
  · exact Int.le_of_eq start.pendingBytesWritten.symm
  · rw [off, start.writeBuffer, start.pendingBytesWritten]
    simp

/-- After every run on a connection, its slots calling back to any depth, no emission is in
progress and the write notifier is on exactly if bytes wait to be sent or to be reported. -/
theorem write_wakeup {script : Script} {s : Socket} (start : JustConnected s)
    (on : script.All Call.OnConnection fun _ => False) :
    (script.exec s).emittedBytesWritten = false ∧
      ((script.exec s).isWriteNotificationEnabled = true ↔
        (script.exec s).writeBuffer ≠ [] ∨ 0 < (script.exec s).pendingBytesWritten) := by
  have kept := keepsWriterAwake.script on s
  have quiet := kept.1.trans start.emittedBytesWritten
  exact ⟨quiet, (kept.2 start.wakesWriter).quiet quiet⟩

theorem write_wakeup_nested :
    let s := Script.exec (.call (.write twoFrames) (fun _ _ => .done)
      (.call (.flush ⟨16, [.all]⟩) (fun _ _ => .done)
      (.call (.writeNotification ⟨16, [.fail .ENOBUFS]⟩)
        (fun _ _ => .ofList [.write twoFrames, .flush ⟨16, [.all]⟩]) .done))) (.connected (.raw {}) 3)
    s.emittedBytesWritten = false ∧
      (s.isWriteNotificationEnabled = true ↔ s.writeBuffer ≠ [] ∨ 0 < s.pendingBytesWritten) :=
  write_wakeup justConnected_raw
    ⟨trivial, fun _ _ => ⟨trivial, False.elim⟩, trivial, fun _ _ => ⟨trivial, False.elim⟩, trivial,
      fun _ _ => ⟨CallRun.Script.all_ofList (by simp [Call.OnConnection]), False.elim⟩, trivial⟩

end CanSocket
