import CanSocket.WaitLoops

namespace CanSocket

open TurnLoop

/-- The write step leaves its events behind, and tells of the earlier amount if there is one and no
emission is under way. -/
theorem CompleteStep.events {env : WriteEnv} {s t : Socket} {ok : Bool} (h : CompleteStep env s (ok, t))
    (waiting : s.writeBuffer ≠ []) :
    (ok = true ↔ 0 ≤ (s.writeResult env).ret) ∧
      ∃ told, s.added t = s.reportEvents ++ ((s.announced Slot.idle).writeEvents env ++ [told]) ∧
        ∀ n, told ≠ .signal (.bytesWritten n) := by
  have result : (s.announced Slot.idle).writeResult env = s.writeResult env := by
    rw [s.announced_idle]
    rfl
  have added : ∀ (t : Socket) (told : Event), t.trace = (s.announced Slot.idle).trace ++
      (s.announced Slot.idle).writeEvents env ++ [told] →
      s.added t = s.reportEvents ++ ((s.announced Slot.idle).writeEvents env ++ [told]) := by
    intro t told eq
    refine Socket.added_of_append ?_
    rw [eq, show (s.announced Slot.idle).trace = s.trace ++ s.reportEvents by rw [s.announced_idle]]
    simp only [List.append_assoc]
  cases h with
  | drained empty => exact absurd empty waiting
  | wrote _ _ step =>
    cases step with
    | failed failed =>
      rw [result] at failed
      exact ⟨by simp [failed], _, added _ _ rfl, by simp⟩
    | sent n notifier ret _ _ =>
      rw [result] at ret
      exact ⟨by simp [ret], .freed n, added _ _ rfl, by simp⟩

theorem signal_not_mem_writeEvents (env : WriteEnv) (s : Socket) (sig : Signal) :
    .signal sig ∉ s.writeEvents env := by
  simp [Socket.writeEvents]

theorem CompleteStep.asks {env : WriteEnv} {s t : Socket} {ok : Bool} (h : CompleteStep env s (ok, t))
    (waiting : s.writeBuffer ≠ []) :
    ∃ emitting block answers, .writeToSocket emitting block answers ∈ s.added t := by
  obtain ⟨_, told, added, _⟩ := h.events waiting
  have first : ∃ emitting block answers rest,
      (s.announced Slot.idle).writeEvents env = .writeToSocket emitting block answers :: rest := ⟨_, _, _, _, rfl⟩
  obtain ⟨emitting, block, answers, rest, eq⟩ := first
  refine ⟨emitting, block, answers, ?_⟩
  rw [added, eq]
  simp

theorem CompleteStep.tells_iff {env : WriteEnv} {s t : Socket} {ok : Bool} (h : CompleteStep env s (ok, t))
    (waiting : s.writeBuffer ≠ []) :
    (∃ n, 0 < n ∧ .signal (.bytesWritten n) ∈ s.added t) ↔
      0 < s.pendingBytesWritten ∧ s.emittedBytesWritten = false := by
  obtain ⟨_, told, added, other⟩ := h.events waiting
  rw [added]
  by_cases reports : 0 < s.pendingBytesWritten ∧ s.emittedBytesWritten = false
  · refine iff_of_true ⟨s.pendingBytesWritten, reports.1, List.mem_append_left _ ?_⟩ reports
    simp [Socket.reportEvents, reports]
  · refine iff_of_false ?_ reports
    rintro ⟨n, _, mem⟩
    rw [Socket.reportEvents, if_neg reports, List.nil_append] at mem
    rcases List.mem_append.mp mem with mem | mem
    · exact signal_not_mem_writeEvents env _ _ mem
    · exact other n (List.mem_singleton.mp mem).symm

/-- The read step of a turn leaves what the write step looks at. -/
structure SameWriting (s t : Socket) : Prop where
  protocol : t.protocol = s.protocol
  descriptor : t.descriptor = s.descriptor
  writeBuffer : t.writeBuffer = s.writeBuffer
  pending : t.pendingBytesWritten = s.pendingBytesWritten
  emitted : t.emittedBytesWritten = s.emittedBytesWritten

theorem SameWriting.writeResult {s t : Socket} (h : SameWriting s t) (env : WriteEnv) :
    t.writeResult env = s.writeResult env := by
  simp only [Socket.writeResult, Socket.nextDataBlock, Socket.nextDataBlockSize, Socket.writeAnswers,
    h.protocol, h.descriptor, h.writeBuffer]

theorem ReadFirst.writing {msecs : Int32} {round : WaitRound} {read : Bool} {s t : Socket}
    (h : ReadFirst read round.read (s.selected msecs round) t) : SameWriting s t := by
  cases read with
  | false =>
    rw [show t = s.selected msecs round from h]
    exact ⟨rfl, rfl, rfl, rfl, rfl⟩
  | true =>
    have step : ReadStep round.read (s.selected msecs round) (true, t) := h
    cases step with
    | received _ _ =>
      unfold Socket.readReceived
      rw [Socket.disableIfFull_notifier]
      exact ⟨rfl, rfl, rfl, rfl, rfl⟩

def Event.notBytesWritten (e : Event) : Prop := ∀ n, e ≠ .signal (.bytesWritten n)

theorem ofReading_notBytesWritten (e : Event) (h : e.ofReading) : e.notBytesWritten := by
  rintro n rfl
  exact h

def Event.notSending (e : Event) : Prop := ∀ emitting block answers, e ≠ .writeToSocket emitting block answers

theorem ofReading_notSending (e : Event) (h : e.ofReading) : e.notSending := by
  rintro emitting block answers rfl
  exact h

theorem selected_adds {p : Event → Prop} (msecs : Int32) (round : WaitRound) (s : Socket)
    (select : ∀ descriptor checkRead checkWrite msecs answer,
      p (.select descriptor checkRead checkWrite msecs answer)) :
    AddsOnly p s (s.selected msecs round) := by
  refine ⟨_, rfl, fun e mem => ?_⟩
  rw [List.mem_singleton.mp mem]
  exact select _ _ _ _ _

/-- Up to the write step of a turn nothing has been sent or reported. -/
theorem ReadFirst.silent {msecs : Int32} {round : WaitRound} {read : Bool} {s t : Socket}
    (h : ReadFirst read round.read (s.selected msecs round) t) :
    AddsOnly Event.notBytesWritten s t := by
  have first := selected_adds (p := Event.notBytesWritten) msecs round s (by simp [Event.notBytesWritten])
  exact first.trans (h.adds.mono ofReading_notBytesWritten)

theorem bytesWritten_begins {msecs : Int32} {k : Nat} {rounds : List WaitRound} {s t : Socket} {round : WaitRound}
    (begins : Begins (Socket.bytesWrittenTurn Slot.idle msecs) k rounds s round t) :
    AddsOnly Event.notBytesWritten s t := by
  refine begins.keeps (fun round t u again h => ?_) (.refl s)
  have turn := bytesWrittenTurn_cases msecs round t
  rw [again] at turn
  cases turn with
  | again read write _ _ _ first => exact h.trans first.silent

/-- `waitForBytesWritten` is true only after an amount was reported, and each turn whose `::select`
reports the descriptor writable gets to `writeToSocket`. -/
structure WaitsTruthfully (msecs : Int32) (rounds : List WaitRound) (s : Socket) : Prop where
  reported : (s.waitForBytesWritten Slot.idle msecs rounds).1 = true →
    ∃ n, 0 < n ∧ .signal (.bytesWritten n) ∈ s.added (s.waitForBytesWritten Slot.idle msecs rounds).2
  writes : s.state ≠ .unconnectedState →
    ∀ k round t, Begins (Socket.bytesWrittenTurn Slot.idle msecs) k rounds s round t →
      ∀ read, round.select = .ready read true → t.writeBuffer ≠ [] →
        ∃ emitting block answers,
          .writeToSocket emitting block answers ∈ t.added (t.bytesWrittenTurn Slot.idle msecs round).state

/-- In a turn that can write, the read step, if there is one, lets it, and there is an amount to report,
which no emission under way keeps back, or the write step fails. -/
def WriteTurnSound (round : WaitRound) (s : Socket) : Prop :=
  ∀ read, round.select = .ready read true → s.writeBuffer ≠ [] →
    (read = true → s.roomToRead ≠ 0 ∧ 0 ≤ (s.readResult round.read).ret) ∧
      (0 < s.pendingBytesWritten ∧ s.emittedBytesWritten = false ∨ (s.writeResult round.write).ret < 0)

/-- What the write step of a turn comes to, in terms of the state the turn begins in. -/
theorem wrote_facts {msecs : Int32} {round : WaitRound} {read ok : Bool} {s t u : Socket} (waiting : s.writeBuffer ≠ [])
    (first : ReadFirst read round.read (s.selected msecs round) t) (step : CompleteStep round.write t (ok, u)) :
    (ok = true ↔ 0 ≤ (s.writeResult round.write).ret) ∧
      ((∃ n, 0 < n ∧ .signal (.bytesWritten n) ∈ t.added u) ↔
        0 < s.pendingBytesWritten ∧ s.emittedBytesWritten = false) ∧
      ∃ emitting block answers, .writeToSocket emitting block answers ∈ s.added u := by
  have same := first.writing
  have waiting' : t.writeBuffer ≠ [] := by rwa [same.writeBuffer]
  refine ⟨?_, ?_, ?_⟩
  · rw [← same.writeResult round.write]
    exact (step.events waiting').1
  · rw [step.tells_iff waiting', same.pending, same.emitted]
  · obtain ⟨emitting, block, answers, mem⟩ := step.asks waiting'
    exact ⟨emitting, block, answers, Socket.mem_added first.silent.grows mem⟩

theorem added_append {p q : Event → Prop} {s t u : Socket} (first : AddsOnly p s t) (second : AddsOnly q t u) :
    s.added u = s.added t ++ t.added u := by
  obtain ⟨before, eq, _⟩ := first
  obtain ⟨after, eq', _⟩ := second
  rw [Socket.added_of_append eq, Socket.added_of_append eq']
  exact Socket.added_of_append (by rw [eq', eq, List.append_assoc])

/-- A turn that can write and gets to `writeToSocket` has made its write step. -/
theorem writes_wrote {msecs : Int32} {round : WaitRound} {read : Bool} {s : Socket}
    (ready : round.select = .ready read true) (waiting : s.writeBuffer ≠ []) {emitting : Bool} {block : List UInt8}
    {answers : List WriteAnswer}
    (mem : .writeToSocket emitting block answers ∈ s.added (s.bytesWrittenTurn Slot.idle msecs round).state) :
    ∃ ok t u, s.bytesWrittenTurn Slot.idle msecs round = .done ok u ∧
      ReadFirst read round.read (s.selected msecs round) t ∧ CompleteStep round.write t (ok, u) := by
  have turn := bytesWrittenTurn_cases msecs round s
  generalize s.bytesWrittenTurn Slot.idle msecs round = r at turn mem
  cases turn with
  | failed t failed => exact absurd ready (failed.1 read true)
  | refused write t _ step =>
    have silent := (selected_adds (p := Event.notSending) msecs round s (by simp [Event.notSending])).trans
      (step.adds.mono ofReading_notSending)
    exact absurd rfl (silent.added _ mem emitting block answers)
  | wrote read' ok t u ready' _ first step =>
    cases ready.symm.trans ready'
    exact ⟨ok, t, u, rfl, first, step⟩
  | again read' write t ready' empty _ =>
    cases ready.symm.trans ready'
    exact absurd (empty rfl) waiting

/-- `waitForBytesWritten` tells the truth exactly if each of its turns that can write is sound. -/
theorem bytes_written_truth_iff {msecs : Int32} {rounds : List WaitRound} {s : Socket}
    (waiting : s.writeBuffer ≠ [] ∨ 0 < s.pendingBytesWritten) :
    WaitsTruthfully msecs rounds s ↔
      (s.state ≠ .unconnectedState →
        ∀ k round t, Begins (Socket.bytesWrittenTurn Slot.idle msecs) k rounds s round t →
          WriteTurnSound round t) := by
  have owing : ¬(s.writeBuffer = [] ∧ s.pendingBytesWritten ≤ 0) := by
    rintro ⟨empty, none⟩
    rcases waiting with waiting | waiting
    · exact waiting empty
    · omega
  by_cases unconnected : s.state = .unconnectedState
  · refine iff_of_true ⟨fun ok => ?_, absurd unconnected⟩ (absurd unconnected)
    rw [Socket.waitForBytesWritten, if_pos unconnected] at ok
    cases ok
  have connected : s.state ≠ .unconnectedState := unconnected
  have run : s.waitForBytesWritten Slot.idle msecs rounds =
      loop (Socket.bytesWrittenTurn Slot.idle msecs) (Socket.interrupted Slot.idle msecs) rounds s := by
    rw [Socket.waitForBytesWritten, if_neg connected, if_neg owing, s.waitForBytesWrittenLoop_eq]
  rw [forall_prop_of_true connected]
  constructor
  · rintro ⟨reported, writes⟩ k round t begins read ready queued
    obtain ⟨emitting, block, answers, mem⟩ := writes connected k round t begins read ready queued
    obtain ⟨ok, u, v, taken, first, step⟩ := writes_wrote ready queued mem
    obtain ⟨succeeds, tells, _⟩ := wrote_facts queued first step
    refine ⟨fun readable => ?_, ?_⟩
    · subst readable
      exact (ReadStep.ok_iff first).mp rfl
    · by_cases failed : (t.writeResult round.write).ret < 0
      · exact Or.inr failed
      · refine Or.inl (tells.mp ?_)
        have true_result : ok = true := succeeds.mpr (by omega)
        rw [run, begins.ends taken] at reported
        obtain ⟨n, positive, told⟩ := reported true_result
        have before := (bytesWritten_begins begins).trans first.silent
        rw [added_append before step.adds] at told
        rcases List.mem_append.mp told with told | told
        · exact absurd rfl (before.added _ told n)
        · exact ⟨n, positive, told⟩
  · intro sound
    refine ⟨?_, fun _ k round t begins read ready queued => ?_⟩
    · rw [run]
      intro ok
      rcases @loop_ends _ _ _ (Socket.bytesWrittenTurn Slot.idle msecs) (Socket.interrupted Slot.idle msecs) rounds s
        with ⟨k, round, t, result, v, begins, taken, eq⟩ | ⟨t, eq⟩
      · rw [eq] at ok ⊢
        obtain rfl : result = true := ok
        have turn := bytesWrittenTurn_cases msecs round t
        rw [taken] at turn
        cases turn with
        | wrote read _ u _ ready queued first step =>
          obtain ⟨succeeds, tells, _⟩ := wrote_facts queued first step
          have sent : 0 ≤ (t.writeResult round.write).ret := succeeds.mp rfl
          rcases (sound k round t begins read ready queued).2 with owed | failed
          · obtain ⟨n, positive, told⟩ := tells.mpr owed
            have before := (bytesWritten_begins begins).trans first.silent
            exact ⟨n, positive, Socket.mem_added before.grows told⟩
          · omega
      · rw [eq] at ok
        cases ok
    · obtain ⟨reads, _⟩ := sound k round t begins read ready queued
      have turn := bytesWrittenTurn_cases msecs round t
      generalize t.bytesWrittenTurn Slot.idle msecs round = r at turn
      cases turn with
      | failed u failed => exact absurd ready (failed.1 read true)
      | refused write u ready' step =>
        cases ready.symm.trans ready'
        exact absurd (step.ok_iff.mpr (reads rfl)) (by simp)
      | wrote read' ok u v _ _ first step => exact (wrote_facts queued first step).2.2
      | again read' write u ready' empty _ =>
        cases ready.symm.trans ready'
        exact absurd (empty rfl) queued

/-- A round in which frames can be written and the kernel takes what it is given. -/
def writableRound (read : Bool) (elapsed elapsedAfter : Int64) : WaitRound :=
  ⟨elapsed, .ready read true, [], ⟨16, [.all]⟩, elapsedAfter⟩

/-- A connected raw socket with a frame to send. -/
def Socket.queued : Socket := (Socket.connected (.raw {}) 3).step (.write (twoFrames.take 16))

theorem bytes_written_truth_iff_queued :
    WaitsTruthfully 10 [writableRound false 0 1] Socket.queued ↔
      (Socket.queued.state ≠ .unconnectedState →
        ∀ k round t, Begins (Socket.bytesWrittenTurn Slot.idle 10) k [writableRound false 0 1] Socket.queued round t →
          WriteTurnSound round t) :=
  bytes_written_truth_iff (Or.inl (by decide))

/-- The same socket with a read buffer that is full. -/
def Socket.queuedAndFull : Socket :=
  { Socket.queued with buffer := twoFrames.take 16, readBufferMaxSize := 16 }

set_option maxRecDepth 8000 in
/-- The first frame that is sent makes the wait come back with true before its amount is reported,
and a full read buffer ends it before anything is sent. -/
theorem bytes_written_truth_fails :
    (Socket.queued.waitForBytesWritten Slot.idle 10 [writableRound false 0 1]).1 = true ∧
      ¬WaitsTruthfully 10 [writableRound false 0 1] Socket.queued ∧
      (Socket.queuedAndFull.waitForBytesWritten Slot.idle 10 [writableRound true 0 1]).1 = false ∧
      ¬WaitsTruthfully 10 [writableRound true 0 1] Socket.queuedAndFull := by
  have came_back : (Socket.queued.waitForBytesWritten Slot.idle 10 [writableRound false 0 1]).1 = true := by decide
  refine ⟨came_back, fun truthful => ?_, by decide, fun truthful => ?_⟩
  · obtain ⟨n, _, told⟩ := truthful.reported came_back
    have silent : Socket.queued.added (Socket.queued.waitForBytesWritten Slot.idle 10 [writableRound false 0 1]).2 =
      [.select 3 true true 10 (.ready false true), .writeToSocket false (twoFrames.take 16) [.all],
        .write 3 ⟨0, twoFrames.take 16, .all⟩, .freed 16] := by decide
    rw [silent] at told
    simp at told
  · obtain ⟨emitting, block, answers, mem⟩ := truthful.writes (by decide) 0 (writableRound true 0 1) _
      (.first _ _ _) true rfl (by decide)
    have silent : Socket.queuedAndFull.added
        (Socket.queuedAndFull.bytesWrittenTurn Slot.idle 10 (writableRound true 0 1)).state =
      [.select 3 true true 10 (.ready true true)] := by decide
    rw [silent] at mem
    simp at mem

end CanSocket
