import Mathlib.Algebra.Group.Int.Defs
import Mathlib.Algebra.Group.Nat.Defs
import CanSocket.WaitLoops

namespace CanSocket

open TurnLoop

/-- The timeout handed to `::select`. -/
def Event.selectTimeout : Event → Option Int32
  | .select _ _ _ msecs _ => some msecs
  | _ => none

namespace Socket

def selects (s : Socket) : List Int32 := s.trace.filterMap Event.selectTimeout

theorem selects_selected (msecs : Int32) (round : WaitRound) (s : Socket) :
    (s.selected msecs round).selects = s.selects ++ [timeoutValue msecs round.elapsed] := by
  simp [selects, selected, log, Event.selectTimeout]

end Socket

theorem AddsOnly.selects {p : Event → Prop} {s t : Socket} (h : AddsOnly p s t)
    (silent : ∀ e, p e → e.selectTimeout = none) : t.selects = s.selects := by
  obtain ⟨events, eq, all⟩ := h
  have none : events.filterMap Event.selectTimeout = [] :=
    List.filterMap_eq_nil_iff.mpr fun e mem => silent e (all e mem)
  rw [Socket.selects, eq, List.filterMap_append, none, List.append_nil, Socket.selects]

theorem ofReading_selectTimeout (e : Event) (h : e.ofReading) : e.selectTimeout = none := by
  cases e with
  | select => exact h.elim
  | _ => rfl

theorem ofWriting_selectTimeout (e : Event) (h : e.ofWriting) : e.selectTimeout = none := by
  cases e with
  | select => exact h.elim
  | _ => rfl

theorem readyReadTurn_selects (msecs : Int32) (round : WaitRound) (s : Socket) :
    (s.readyReadTurn Slot.idle msecs round).state.selects =
      s.selects ++ [Socket.timeoutValue msecs round.elapsed] := by
  have turn := readyReadTurn_cases msecs round s
  rw [← s.selects_selected msecs round]
  generalize s.readyReadTurn Slot.idle msecs round = r at turn
  cases turn with
  | failed t failed => exact failed.adds.1.selects ofReading_selectTimeout
  | read write ok t _ step => exact step.adds.selects ofReading_selectTimeout
  | ended write t _ adds => exact adds.selects ofWriting_selectTimeout
  | again write t _ adds _ _ => exact adds.selects ofWriting_selectTimeout

theorem bytesWrittenTurn_selects (msecs : Int32) (round : WaitRound) (s : Socket) :
    (s.bytesWrittenTurn Slot.idle msecs round).state.selects =
      s.selects ++ [Socket.timeoutValue msecs round.elapsed] := by
  have turn := bytesWrittenTurn_cases msecs round s
  rw [← s.selects_selected msecs round]
  generalize s.bytesWrittenTurn Slot.idle msecs round = r at turn
  cases turn with
  | failed t failed => exact failed.adds.1.selects ofReading_selectTimeout
  | refused write t _ step => exact step.adds.selects ofReading_selectTimeout
  | wrote read ok t u _ _ first step =>
    exact (step.adds.selects ofWriting_selectTimeout).trans (first.adds.selects ofReading_selectTimeout)
  | again read write t _ _ first => exact first.adds.selects ofReading_selectTimeout

theorem interrupted_selects (msecs : Int32) (s : Socket) :
    (s.interrupted Slot.idle msecs).2.selects = s.selects ++ [Socket.timeoutValue msecs 0] := by
  simp [Socket.selects, Socket.interrupted, Socket.waitForReadOrWrite, Socket.setSystemError, Socket.setErrno,
    Socket.setError, Socket.emit, Socket.log, Slot.idle, Event.selectTimeout]

/-- The timeouts handed to `::select` between two states of one run. -/
def Socket.timeouts (s t : Socket) : List Int32 := t.selects.drop s.selects.length

/-- A wait of `msecs` hands no timeout to `::select` but one from zero to the time that remains, and
begins no further round after one at whose end that time is used up. -/
structure KeepsDeadline (msecs : Int32) (rounds : List WaitRound) (timeouts : List Int32) : Prop where
  remaining : ∀ (k : Nat) (round : WaitRound) (m : Int32), rounds[k]? = some round → timeouts[k]? = some m →
    0 ≤ m.toInt ∧ m.toInt ≤ max (msecs.toInt - round.elapsed.toInt) 0
  ends : ∀ (k : Nat) (round : WaitRound), rounds[k]? = some round → k + 1 < timeouts.length →
    round.elapsedAfter.toInt < msecs.toInt

/-- Narrowing a reading of the clock to 32 bits does no harm before the deadline, and after it in every other span of
2^31 milliseconds; in those between time seems to remain. -/
def ReadsRight (msecs : Int32) (elapsed : Int64) : Prop :=
  elapsed.toInt < msecs.toInt ∨ (elapsed.toInt - msecs.toInt) % 2 ^ 32 ≤ 2 ^ 31

/-- A clock that was started with the wait. -/
def ClockReadings (rounds : List WaitRound) : Prop :=
  ∀ round ∈ rounds, 0 ≤ round.elapsed.toInt ∧ 0 ≤ round.elapsedAfter.toInt

theorem timeoutValue_toInt {msecs : Int32} (finite : 0 ≤ msecs) (elapsed : Int64) :
    (Socket.timeoutValue msecs elapsed).toInt = max ((msecs.toInt - elapsed.toInt).bmod (2 ^ 32)) 0 := by
  have bounded : ¬msecs = -1 := by
    rintro rfl
    exact absurd finite (by decide)
  have narrowed : (msecs - elapsed.toInt32).toInt = (msecs.toInt - elapsed.toInt).bmod (2 ^ 32) := by
    rw [Int32.toInt_sub, Int64.toInt_toInt32, Int.sub_bmod_bmod]
  have zero : (0 : Int32).toInt = 0 := rfl
  rw [Socket.timeoutValue, if_neg bounded, ← narrowed]
  rcases Int32.le_total (msecs - elapsed.toInt32) 0 with past | ahead
  · have negative := Int32.le_iff_toInt_le.mp past
    rw [show max (msecs - elapsed.toInt32) 0 = 0 from if_pos past]
    omega
  · have positive := Int32.le_iff_toInt_le.mp ahead
    by_cases same : msecs - elapsed.toInt32 ≤ 0
    · have negative := Int32.le_iff_toInt_le.mp same
      rw [show max (msecs - elapsed.toInt32) 0 = 0 from if_pos same]
      omega
    · rw [show max (msecs - elapsed.toInt32) 0 = msecs - elapsed.toInt32 from if_neg same]
      omega

section Clock

variable {msecs : Int32} {elapsed : Int64} (finite : 0 ≤ msecs) (started : 0 ≤ elapsed.toInt)
include finite started

theorem remaining_iff : (0 ≤ (Socket.timeoutValue msecs elapsed).toInt ∧
    (Socket.timeoutValue msecs elapsed).toInt ≤ max (msecs.toInt - elapsed.toInt) 0) ↔ ReadsRight msecs elapsed := by
  have below := msecs.toInt_lt
  have bounded := Int32.le_iff_toInt_le.mp finite
  have zero : (0 : Int32).toInt = 0 := rfl
  rw [timeoutValue_toInt finite, Int.bmod_def, ReadsRight]
  rw [show (2 : Nat) ^ 32 = 4294967296 from rfl]
  split <;> omega

theorem timeoutValue_positive_iff : 0 < Socket.timeoutValue msecs elapsed ↔
    elapsed.toInt < msecs.toInt ∨ ¬ReadsRight msecs elapsed := by
  have below := msecs.toInt_lt
  have bounded := Int32.le_iff_toInt_le.mp finite
  have zero : (0 : Int32).toInt = 0 := rfl
  rw [Int32.lt_iff_toInt_lt, timeoutValue_toInt finite, Int.bmod_def, ReadsRight]
  rw [show (2 : Nat) ^ 32 = 4294967296 from rfl]
  split <;> omega

end Clock

/-- The answers of a round end `waitForReadyRead`: `::select` has nothing ready, there is something to read, or the write
step fails. -/
def StopsReadWait (round : WaitRound) (s : Socket) : Prop :=
  ∀ read write, round.select = .ready read write →
    read = true ∨ write = true ∧ s.writeBuffer ≠ [] ∧ (s.writeResult round.write).ret < 0

/-- The answers of a round end `waitForBytesWritten`: `::select` has nothing ready, data can be written, or there is
something to read and the read step finds no room or fails. -/
def StopsWriteWait (round : WaitRound) (s : Socket) : Prop :=
  ∀ read write, round.select = .ready read write →
    write = true ∧ s.writeBuffer ≠ [] ∨ read = true ∧ (s.roomToRead = 0 ∨ (s.readResult round.read).ret < 0)

namespace Socket

/-- The state behind the `::select` and the write step of a round. -/
def writeRound (msecs : Int32) (round : WaitRound) (s : Socket) : Socket :=
  match round.select with
  | .ready _ write =>
    if write = true ∧ s.writeBuffer ≠ [] then
      ((s.selected msecs round).completeAsyncWrite Slot.idle round.write).2
    else s.selected msecs round
  | _ => s.selected msecs round

/-- The state behind the `::select` and the read step of a round. -/
def readRound (msecs : Int32) (round : WaitRound) (s : Socket) : Socket :=
  match round.select with
  | .ready read _ =>
    if read then ((s.selected msecs round).readNotification Slot.idle round.read).2 else s.selected msecs round
  | _ => s.selected msecs round

theorem completeAsyncWrite_fails_iff {env : WriteEnv} {s : Socket} (waiting : s.writeBuffer ≠ []) :
    (s.completeAsyncWrite Slot.idle env).1 = false ↔ (s.writeResult env).ret < 0 := by
  have same : (s.announced Slot.idle).writeResult env = s.writeResult env := by rw [s.announced_idle]; rfl
  have step := completeAsyncWrite_step env s
  generalize s.completeAsyncWrite Slot.idle env = r at step
  cases step with
  | drained empty => exact absurd empty waiting
  | wrote r _ step =>
    cases step with
    | failed ret => exact iff_of_true rfl (same ▸ ret)
    | sent n _ ret _ _ => exact iff_of_false (by simp) (by rw [← same, ret]; omega)

end Socket

theorem stopsReadWait_ready {round : WaitRound} {read write : Bool} (ready : round.select = .ready read write)
    (s : Socket) : StopsReadWait round s ↔
      read = true ∨ write = true ∧ s.writeBuffer ≠ [] ∧ (s.writeResult round.write).ret < 0 := by
  simp [StopsReadWait, ready]

theorem stopsWriteWait_ready {round : WaitRound} {read write : Bool} (ready : round.select = .ready read write)
    (s : Socket) : StopsWriteWait round s ↔
      write = true ∧ s.writeBuffer ≠ [] ∨ read = true ∧ (s.roomToRead = 0 ∨ (s.readResult round.read).ret < 0) := by
  simp [StopsWriteWait, ready]

/-- A turn of `waitForReadyRead` goes on unless its answers or the clock stop it. -/
theorem readyReadTurn_again_iff (msecs : Int32) (round : WaitRound) (s t : Socket) :
    s.readyReadTurn Slot.idle msecs round = .again t ↔
      ¬(StopsReadWait round s ∨ ¬(msecs = -1 ∨ 0 < Socket.timeoutValue msecs round.elapsedAfter)) ∧
        t = s.writeRound msecs round := by
  unfold Socket.readyReadTurn Socket.writeRound
  rcases select_cases msecs round s with ⟨u, failed, eq⟩ | ⟨read, write, ready, eq⟩
  · rw [eq]
    exact iff_of_false (by simp) fun goes => goes.1 (Or.inl fun read write ready => absurd ready (failed.1 read write))
  · rw [eq, stopsReadWait_ready ready, ready]
    dsimp only
    cases read with
    | true => simp
    | false =>
      rw [if_neg Bool.false_ne_true]
      by_cases sends : write = true ∧ s.writeBuffer ≠ []
      · have fails : ((s.selected msecs round).completeAsyncWrite Slot.idle round.write).1 = false ↔
            (s.writeResult round.write).ret < 0 :=
          Socket.completeAsyncWrite_fails_iff (s := s.selected msecs round) sends.2
        have asked : (write && decide (s.writeBuffer ≠ [])) = true := by simpa using sends
        rw [if_pos asked, if_pos sends]
        generalize (s.selected msecs round).completeAsyncWrite Slot.idle round.write = r at fails
        obtain ⟨written, u⟩ := r
        dsimp only at fails ⊢
        cases written with
        | false => simp [fails.mp rfl, sends]
        | true =>
          have sent : ¬(s.writeResult round.write).ret < 0 := by simp [← fails]
          by_cases time : msecs = -1 ∨ 0 < Socket.timeoutValue msecs round.elapsedAfter
          · simp [time, sent, eq_comm]
          · simp [time]
      · have asked : ¬(write && decide (s.writeBuffer ≠ [])) = true := by simpa using sends
        have untried : ¬(write = true ∧ s.writeBuffer ≠ [] ∧ (s.writeResult round.write).ret < 0) :=
          fun tried => sends ⟨tried.1, tried.2.1⟩
        rw [if_neg asked, if_neg sends]
        by_cases time : msecs = -1 ∨ 0 < Socket.timeoutValue msecs round.elapsedAfter
        · simp only [time, untried]
          simp [eq_comm]
        · simp [time]

/-- A turn of `waitForBytesWritten` goes on unless its answers stop it, whatever the clock shows. -/
theorem bytesWrittenTurn_again_iff (msecs : Int32) (round : WaitRound) (s t : Socket) :
    s.bytesWrittenTurn Slot.idle msecs round = .again t ↔
      ¬StopsWriteWait round s ∧ t = s.readRound msecs round := by
  unfold Socket.bytesWrittenTurn Socket.readRound
  rcases select_cases msecs round s with ⟨u, failed, eq⟩ | ⟨read, write, ready, eq⟩
  · rw [eq]
    exact iff_of_false (by simp) fun goes => goes.1 fun read write ready => absurd ready (failed.1 read write)
  · rw [eq, stopsWriteWait_ready ready, ready]
    dsimp only
    have ok := (readNotification_step round.read (s.selected msecs round)).ok_iff
    have room : (s.selected msecs round).roomToRead = s.roomToRead := rfl
    have result : (s.selected msecs round).readResult round.read = s.readResult round.read := rfl
    rw [room, result] at ok
    generalize (s.selected msecs round).readNotification Slot.idle round.read = r at ok
    obtain ⟨received, u⟩ := r
    dsimp only at ok
    cases read with
    | false =>
      by_cases sends : write = true ∧ s.writeBuffer ≠ []
      · simp [sends]
      · have asked : ¬(write && decide (s.writeBuffer ≠ [])) = true := by simpa using sends
        simp only [Bool.false_eq_true, if_false, asked, sends, Bool.not_true]
        simp [eq_comm]
    | true =>
      cases received with
      | false =>
        have stops : s.roomToRead = 0 ∨ (s.readResult round.read).ret < 0 := by
          have refused := mt ok.mpr Bool.false_ne_true
          omega
        simp [stops]
      | true =>
        obtain ⟨some, read⟩ := ok.mp rfl
        have goes : ¬(s.roomToRead = 0 ∨ (s.readResult round.read).ret < 0) := by omega
        by_cases sends : write = true ∧ s.writeBuffer ≠ []
        · simp [sends]
        · have asked : ¬(write && decide (s.writeBuffer ≠ [])) = true := by simpa using sends
          simp only [if_true, asked, sends, goes, Bool.not_true]
          simp [eq_comm]

theorem readyRead_timeouts (msecs : Int32) (rounds : List WaitRound) (s : Socket) :
    s.timeouts (s.waitForReadyReadLoop Slot.idle msecs rounds).2 =
      entries (Socket.readyReadTurn Slot.idle msecs) (fun round => Socket.timeoutValue msecs round.elapsed)
        (Socket.timeoutValue msecs 0) rounds s := by
  rw [Socket.timeouts, s.waitForReadyReadLoop_eq,
    loop_log (readyReadTurn_selects msecs) (interrupted_selects msecs) rounds s, List.drop_left]

theorem bytesWritten_timeouts (msecs : Int32) (rounds : List WaitRound) (s : Socket) :
    s.timeouts (s.waitForBytesWrittenLoop Slot.idle msecs rounds).2 =
      entries (Socket.bytesWrittenTurn Slot.idle msecs) (fun round => Socket.timeoutValue msecs round.elapsed)
        (Socket.timeoutValue msecs 0) rounds s := by
  rw [Socket.timeouts, s.waitForBytesWrittenLoop_eq,
    loop_log (bytesWrittenTurn_selects msecs) (interrupted_selects msecs) rounds s, List.drop_left]

/-- In every round `waitForReadyRead` comes to, by its answers and before the deadline, the clock is read right, at the
end of the round too if the answers do not end it. -/
def ReadWaitReadsRight (msecs : Int32) (rounds : List WaitRound) (s : Socket) : Prop :=
  ∀ k round, rounds[k]? = some round →
    (∃ j < k, ∃ other, rounds[j]? = some other ∧
      (StopsReadWait other (stateAt (Socket.writeRound msecs) rounds j s) ∨
        msecs.toInt ≤ other.elapsedAfter.toInt)) ∨
    ReadsRight msecs round.elapsed ∧
      (StopsReadWait round (stateAt (Socket.writeRound msecs) rounds k s) ∨ ReadsRight msecs round.elapsedAfter)

/-- In every round no earlier answers have kept `waitForBytesWritten` from, the clock is read right, and the deadline is
not reached unless the answers of this round end the wait. -/
def AnswersEndInTime (msecs : Int32) (rounds : List WaitRound) (s : Socket) : Prop :=
  ∀ k round, rounds[k]? = some round →
    (∃ j < k, ∃ other, rounds[j]? = some other ∧ StopsWriteWait other (stateAt (Socket.readRound msecs) rounds j s)) ∨
    ReadsRight msecs round.elapsed ∧
      (StopsWriteWait round (stateAt (Socket.readRound msecs) rounds k s) ∨ round.elapsedAfter.toInt < msecs.toInt)

section Deadline

variable {msecs : Int32} {rounds : List WaitRound} (finite : 0 ≤ msecs) (clock : ClockReadings rounds)
include finite clock

theorem keepsDeadline_iff (turn : WaitRound → Socket → Turn Socket Bool) (s : Socket) :
    KeepsDeadline msecs rounds (entries turn (fun round => Socket.timeoutValue msecs round.elapsed)
        (Socket.timeoutValue msecs 0) rounds s) ↔
      ∀ k round t, Begins turn k rounds s round t → ReadsRight msecs round.elapsed ∧
        ∀ u, turn round t = .again u → round.elapsedAfter.toInt < msecs.toInt := by
  constructor
  · intro keeps k round t begins
    have started := (clock round (List.mem_of_getElem? begins.input)).1
    refine ⟨(remaining_iff finite started).mp (keeps.remaining k round _ begins.input (entries_of_begins begins)), ?_⟩
    exact fun u again => keeps.ends k round begins.input (entries_after_iff.mpr ⟨round, t, u, begins, again⟩)
  · intro right
    refine ⟨fun k round m input get => ?_, fun k round input more => ?_⟩
    · obtain ⟨rfl, t, begins⟩ := entries_get input get
      exact (remaining_iff finite (clock round (List.mem_of_getElem? input)).1).mpr (right k round t begins).1
    · obtain ⟨other, t, u, begins, again⟩ := entries_after_iff.mp more
      cases input.symm.trans begins.input
      exact (right k round t begins).2 u again

/-- The clock lets `waitForReadyRead` go on behind a round before the deadline, and where it is misread. -/
theorem goesOn_iff {round : WaitRound} (mem : round ∈ rounds) :
    (msecs = -1 ∨ 0 < Socket.timeoutValue msecs round.elapsedAfter) ↔
      round.elapsedAfter.toInt < msecs.toInt ∨ ¬ReadsRight msecs round.elapsedAfter := by
  have bounded : ¬msecs = -1 := by
    rintro rfl
    exact absurd finite (by decide)
  rw [or_iff_right bounded, timeoutValue_positive_iff finite (clock round mem).2]

/-- Where the clock is read right, the rounds `waitForReadyRead` has gone on from ended before the deadline. -/
theorem inTime_of_readsRight {s : Socket} (right : ReadWaitReadsRight msecs rounds s) {k : Nat}
    (reached : ∀ j < k, ∀ other, rounds[j]? = some other →
      ¬(StopsReadWait other (stateAt (Socket.writeRound msecs) rounds j s) ∨
        ¬(msecs = -1 ∨ 0 < Socket.timeoutValue msecs other.elapsedAfter))) :
    ¬∃ j < k, ∃ other, rounds[j]? = some other ∧
      (StopsReadWait other (stateAt (Socket.writeRound msecs) rounds j s) ∨
        msecs.toInt ≤ other.elapsedAfter.toInt) := by
  induction k with
  | zero =>
    rintro ⟨j, below, _⟩
    exact absurd below (Nat.not_lt_zero j)
  | succ k ih =>
    rintro ⟨j, below, other, at_j, stops⟩
    have earlier := ih fun i inside => reached i (Nat.lt_succ_of_lt inside)
    have goes := reached j below other at_j
    rw [goesOn_iff finite clock (List.mem_of_getElem? at_j)] at goes
    obtain ⟨answered, early⟩ := not_or.mp goes
    by_cases last : j < k
    · exact earlier ⟨j, last, other, at_j, stops⟩
    · obtain rfl : j = k := by omega
      rcases right j other at_j with stopped | ⟨_, stopped | read⟩
      · exact earlier stopped
      · exact answered stopped
      · rcases not_not.mp early with early | misread
        · exact stops.elim answered (by omega)
        · exact misread read

theorem readyRead_keepsDeadline_iff (s : Socket) :
    KeepsDeadline msecs rounds (s.timeouts (s.waitForReadyReadLoop Slot.idle msecs rounds).2) ↔
      ReadWaitReadsRight msecs rounds s := by
  rw [readyRead_timeouts, keepsDeadline_iff finite clock]
  simp only [begins_iff (readyReadTurn_again_iff msecs), readyReadTurn_again_iff]
  constructor
  · intro keeps k round input
    by_cases before : ∃ j < k, ∃ other, rounds[j]? = some other ∧
        (StopsReadWait other (stateAt (Socket.writeRound msecs) rounds j s) ∨ msecs.toInt ≤ other.elapsedAfter.toInt)
    · exact Or.inl before
    · have reached : ∀ j < k, ∀ other, rounds[j]? = some other →
          ¬(StopsReadWait other (stateAt (Socket.writeRound msecs) rounds j s) ∨
            ¬(msecs = -1 ∨ 0 < Socket.timeoutValue msecs other.elapsedAfter)) := by
        intro j below other at_j
        rw [goesOn_iff finite clock (List.mem_of_getElem? at_j)]
        rintro (stops | late)
        · exact before ⟨j, below, other, at_j, Or.inl stops⟩
        · exact before ⟨j, below, other, at_j, Or.inr (by omega)⟩
      obtain ⟨right, ends⟩ := keeps k round _ ⟨input, rfl, reached⟩
      refine Or.inr ⟨right, ?_⟩
      by_contra wrong
      obtain ⟨answered, misread⟩ := not_or.mp wrong
      have goes := (goesOn_iff finite clock (List.mem_of_getElem? input)).mpr (Or.inr misread)
      have early := ends _ ⟨fun stops => stops.elim answered fun no => no goes, rfl⟩
      exact misread (Or.inl early)
  · rintro right k round t ⟨input, rfl, reached⟩
    rcases right k round input with stopped | ⟨read, after⟩
    · exact absurd stopped (inTime_of_readsRight finite clock right reached)
    · refine ⟨read, fun u again => ?_⟩
      obtain ⟨answered, early⟩ := not_or.mp again.1
      rcases (goesOn_iff finite clock (List.mem_of_getElem? input)).mp (not_not.mp early) with early | misread
      · exact early
      · exact absurd (after.resolve_left answered) misread

theorem bytesWritten_keepsDeadline_iff (s : Socket) :
    KeepsDeadline msecs rounds (s.timeouts (s.waitForBytesWrittenLoop Slot.idle msecs rounds).2) ↔
      AnswersEndInTime msecs rounds s := by
  rw [bytesWritten_timeouts, keepsDeadline_iff finite clock]
  simp only [begins_iff (bytesWrittenTurn_again_iff msecs), bytesWrittenTurn_again_iff]
  constructor
  · intro keeps k round input
    by_cases before : ∃ j < k, ∃ other, rounds[j]? = some other ∧
        StopsWriteWait other (stateAt (Socket.readRound msecs) rounds j s)
    · exact Or.inl before
    · obtain ⟨right, ends⟩ := keeps k round _
        ⟨input, rfl, fun j below other at_j stops => before ⟨j, below, other, at_j, stops⟩⟩
      refine Or.inr ⟨right, ?_⟩
      by_cases stops : StopsWriteWait round (stateAt (Socket.readRound msecs) rounds k s)
      · exact Or.inl stops
      · exact Or.inr (ends _ ⟨stops, rfl⟩)
  · rintro right k round t ⟨input, rfl, reached⟩
    rcases right k round input with ⟨j, below, other, at_j, stops⟩ | ⟨read, after⟩
    · exact absurd stops (reached j below other at_j)
    · exact ⟨read, fun u again => after.resolve_left again.1⟩

end Deadline

theorem keepsDeadline_nil (msecs : Int32) (rounds : List WaitRound) : KeepsDeadline msecs rounds [] :=
  ⟨fun k round m _ get => by simp at get, fun k round _ more => by simp at more⟩

theorem readsRight_of_short {msecs : Int32} (finite : 0 ≤ msecs) {elapsed : Int64} (short : elapsed.toInt ≤ 2 ^ 31) :
    ReadsRight msecs elapsed := by
  have bounded := Int32.le_iff_toInt_le.mp finite
  have zero : (0 : Int32).toInt = 0 := rfl
  unfold ReadsRight
  omega

/-- A connected raw socket that has sent one frame and not yet reported it. -/
def Socket.reporting : Socket :=
  ((Socket.connected (.raw {}) 3).step (.write (twoFrames.take 16))).step (.flush ⟨16, [.all]⟩)

/-- Three rounds in which the descriptor is readable and the read finds nothing. -/
def readableRounds : List WaitRound := [readableRound [] 0 4, readableRound [] 4 12, readableRound [] 12 20]

/-- A round in which a frame can be written and the clock is read again after 2^31 milliseconds and 11. -/
def lateRound : WaitRound := ⟨0, .ready false true, [], ⟨16, [.all]⟩, 2147483659⟩

end CanSocket
