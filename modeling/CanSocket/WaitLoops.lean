import CanSocket.ReadLimits
import CanSocket.TurnLoop

namespace CanSocket

open TurnLoop

namespace Socket

/-- One turn of the loop in `waitForReadyRead`. -/
def readyReadTurn (slot : Slot) (msecs : Int32) (round : WaitRound) (s : Socket) : Turn Socket Bool :=
  match s.waitForReadOrWrite slot true (s.writeBuffer ≠ []) (timeoutValue msecs round.elapsed) round.select with
  | (none, s) => .done false s
  | (some (readyToRead, readyToWrite), s) =>
    if readyToRead then .done (s.readNotification slot round.read).1 (s.readNotification slot round.read).2
    else
      let (written, s) := if readyToWrite then s.completeAsyncWrite slot round.write else (true, s)
      if !written then .done false s
      else if msecs = -1 ∨ 0 < timeoutValue msecs round.elapsedAfter then .again s
      else .done false s

/-- One turn of the loop in `waitForBytesWritten`, which does not look at the clock again. -/
def bytesWrittenTurn (slot : Slot) (msecs : Int32) (round : WaitRound) (s : Socket) : Turn Socket Bool :=
  match s.waitForReadOrWrite slot true (s.writeBuffer ≠ []) (timeoutValue msecs round.elapsed) round.select with
  | (none, s) => .done false s
  | (some (readyToRead, readyToWrite), s) =>
    let (received, s) := if readyToRead then s.readNotification slot round.read else (true, s)
    if !received then .done false s
    else if readyToWrite then .done (s.completeAsyncWrite slot round.write).1 (s.completeAsyncWrite slot round.write).2
    else .again s

/-- After the last round given, the next `::select` is interrupted. -/
def interrupted (slot : Slot) (msecs : Int32) (s : Socket) : Bool × Socket :=
  (false, (s.waitForReadOrWrite slot true (s.writeBuffer ≠ []) (timeoutValue msecs 0) (.fail .EINTR)).2)

theorem waitForReadyReadLoop_eq (slot : Slot) (msecs : Int32) (rounds : List WaitRound) (s : Socket) :
    s.waitForReadyReadLoop slot msecs rounds =
      loop (readyReadTurn slot msecs) (interrupted slot msecs) rounds s := by
  induction rounds generalizing s with
  | nil => rfl
  | cons round rounds ih =>
    rw [waitForReadyReadLoop, loop, readyReadTurn]
    generalize waitForReadOrWrite slot true _ _ round.select s = selected
    obtain ⟨ready, t⟩ := selected
    cases ready with
    | none => rfl
    | some ready =>
      obtain ⟨readyToRead, readyToWrite⟩ := ready
      cases readyToRead with
      | true => rfl
      | false =>
        dsimp only
        rw [if_neg Bool.false_ne_true, if_neg Bool.false_ne_true]
        generalize (if readyToWrite then t.completeAsyncWrite slot round.write else (true, t)) = r
        by_cases failed : (!r.1) = true
        · rw [if_pos failed, if_pos failed]
        · rw [if_neg failed, if_neg failed]
          by_cases time : msecs = -1 ∨ 0 < timeoutValue msecs round.elapsedAfter
          · rw [if_pos time, if_pos time]
            exact ih _
          · rw [if_neg time, if_neg time]

theorem waitForBytesWrittenLoop_eq (slot : Slot) (msecs : Int32) (rounds : List WaitRound) (s : Socket) :
    s.waitForBytesWrittenLoop slot msecs rounds =
      loop (bytesWrittenTurn slot msecs) (interrupted slot msecs) rounds s := by
  induction rounds generalizing s with
  | nil => rfl
  | cons round rounds ih =>
    rw [waitForBytesWrittenLoop, loop, bytesWrittenTurn]
    generalize waitForReadOrWrite slot true _ _ round.select s = selected
    obtain ⟨ready, t⟩ := selected
    cases ready with
    | none => rfl
    | some ready =>
      obtain ⟨readyToRead, readyToWrite⟩ := ready
      dsimp only
      generalize (if readyToRead then t.readNotification slot round.read else (true, t)) = r
      by_cases failed : (!r.1) = true
      · rw [if_pos failed, if_pos failed]
      · rw [if_neg failed, if_neg failed]
        cases readyToWrite with
        | true => rfl
        | false => exact ih _

end Socket

/-- Between two states of one run only such events came to the trace. -/
def AddsOnly (p : Event → Prop) (s t : Socket) : Prop :=
  ∃ events, t.trace = s.trace ++ events ∧ ∀ e ∈ events, p e

def Event.ofReading : Event → Prop
  | .readFromSocket .. => True
  | .read .. => True
  | .signal .readyRead => True
  | .signal (.error _) => True
  | _ => False

def Event.ofWriting : Event → Prop
  | .signal (.bytesWritten _) => True
  | .writeToSocket .. => True
  | .write .. => True
  | .freed _ => True
  | .signal (.error _) => True
  | _ => False

theorem AddsOnly.refl {p : Event → Prop} (s : Socket) : AddsOnly p s s := ⟨[], by simp, by simp⟩

theorem AddsOnly.trans {p : Event → Prop} {s t u : Socket} (first : AddsOnly p s t) (second : AddsOnly p t u) :
    AddsOnly p s u := by
  obtain ⟨before, eq, all⟩ := first
  obtain ⟨after, eq', all'⟩ := second
  refine ⟨before ++ after, by rw [eq', eq, List.append_assoc], fun e mem => ?_⟩
  rcases List.mem_append.mp mem with mem | mem
  · exact all e mem
  · exact all' e mem

theorem AddsOnly.mono {p q : Event → Prop} {s t : Socket} (h : AddsOnly p s t) (weaker : ∀ e, p e → q e) :
    AddsOnly q s t := by
  obtain ⟨events, eq, all⟩ := h
  exact ⟨events, eq, fun e mem => weaker e (all e mem)⟩

theorem AddsOnly.added {p : Event → Prop} {s t : Socket} (h : AddsOnly p s t) : ∀ e ∈ s.added t, p e := by
  obtain ⟨events, eq, all⟩ := h
  rw [Socket.added_of_append eq]
  exact all

theorem readEvents_ofReading (answers : List ReadAnswer) (s : Socket) :
    ∀ e ∈ s.readEvents answers, e.ofReading := by
  simp [Socket.readEvents, Event.ofReading]

theorem writeEvents_ofWriting (env : WriteEnv) (s : Socket) : ∀ e ∈ s.writeEvents env, e.ofWriting := by
  simp [Socket.writeEvents, Event.ofWriting]

theorem ReadStep.adds {answers : List ReadAnswer} {s : Socket} {r : Bool × Socket}
    (h : ReadStep answers s r) : AddsOnly Event.ofReading s r.2 := by
  have asked := readEvents_ofReading answers s
  cases h with
  | full _ _ =>
    rw [Socket.setRead_false]
    exact .refl s
  | failed _ _ =>
    refine ⟨_, List.append_assoc _ _ _, fun e mem => ?_⟩
    rcases List.mem_append.mp mem with mem | mem
    · exact asked e mem
    · rw [List.mem_singleton.mp mem]
      trivial
  | received _ _ =>
    unfold Socket.readReceived
    rw [Socket.disableIfFull_notifier]
    refine ⟨_, List.append_assoc _ _ _, fun e mem => ?_⟩
    rcases List.mem_append.mp mem with mem | mem
    · exact asked e mem
    · split at mem
      · rw [List.mem_singleton.mp mem]
        trivial
      · cases mem

theorem announced_adds (s : Socket) : AddsOnly Event.ofWriting s (s.announced Slot.idle) := by
  rw [s.announced_idle]
  refine ⟨s.reportEvents, rfl, fun e mem => ?_⟩
  unfold Socket.reportEvents at mem
  split at mem
  · rw [List.mem_singleton.mp mem]
    trivial
  · cases mem

theorem WriteStep.adds {env : WriteEnv} {s : Socket} {r : Bool × Socket} (h : WriteStep env s r) :
    AddsOnly Event.ofWriting s r.2 := by
  have wrote := writeEvents_ofWriting env s
  cases h with
  | failed _ =>
    refine ⟨_, List.append_assoc _ _ _, fun e mem => ?_⟩
    rcases List.mem_append.mp mem with mem | mem
    · exact wrote e mem
    · rw [List.mem_singleton.mp mem]
      trivial
  | sent n notifier _ _ _ =>
    refine ⟨_, List.append_assoc _ _ _, fun e mem => ?_⟩
    rcases List.mem_append.mp mem with mem | mem
    · exact wrote e mem
    · rw [List.mem_singleton.mp mem]
      trivial

theorem CompleteStep.adds {env : WriteEnv} {s : Socket} {r : Bool × Socket} (h : CompleteStep env s r) :
    AddsOnly Event.ofWriting s r.2 := by
  cases h with
  | drained _ =>
    obtain ⟨made, eq⟩ := (s.announced Slot.idle).setWrite_eq false
    rw [eq]
    exact announced_adds s
  | wrote r _ step => exact (announced_adds s).trans step.adds

/-- The write step leaves what has been read. -/
theorem CompleteStep.reading {env : WriteEnv} {s : Socket} {r : Bool × Socket} (h : CompleteStep env s r) :
    r.2.buffer = s.buffer ∧ r.2.emittedReadyRead = s.emittedReadyRead := by
  cases h with
  | drained _ =>
    obtain ⟨made, eq⟩ := (s.announced Slot.idle).setWrite_eq false
    rw [eq, s.announced_idle]
    exact ⟨rfl, rfl⟩
  | wrote r _ step =>
    rw [s.announced_idle] at step
    cases step <;> exact ⟨rfl, rfl⟩

/-- The state behind the `::select` of a turn. -/
def Socket.selected (msecs : Int32) (round : WaitRound) (s : Socket) : Socket :=
  s.log (.select s.descriptor true (s.writeBuffer ≠ []) (Socket.timeoutValue msecs round.elapsed) round.select)

/-- In both loops a turn ends at once, with an error told, when `::select` has nothing ready. -/
def SelectFailed (msecs : Int32) (round : WaitRound) (s t : Socket) : Prop :=
  (∀ read write, round.select ≠ .ready read write) ∧
    ∃ e, t.trace = (s.selected msecs round).trace ++ [.signal (.error e)]

theorem SelectFailed.adds {msecs : Int32} {round : WaitRound} {s t : Socket} (h : SelectFailed msecs round s t) :
    AddsOnly Event.ofReading (s.selected msecs round) t ∧ AddsOnly Event.ofWriting (s.selected msecs round) t := by
  obtain ⟨_, e, eq⟩ := h
  constructor
  · refine ⟨_, eq, fun e mem => ?_⟩
    rw [List.mem_singleton.mp mem]
    trivial
  · refine ⟨_, eq, fun e mem => ?_⟩
    rw [List.mem_singleton.mp mem]
    trivial

theorem select_cases (msecs : Int32) (round : WaitRound) (s : Socket) :
    (∃ t, SelectFailed msecs round s t ∧ s.waitForReadOrWrite Slot.idle true (s.writeBuffer ≠ [])
        (Socket.timeoutValue msecs round.elapsed) round.select = (none, t)) ∨
      ∃ read write, round.select = .ready read write ∧
        s.waitForReadOrWrite Slot.idle true (s.writeBuffer ≠ []) (Socket.timeoutValue msecs round.elapsed)
            round.select = (some (read, write && decide (s.writeBuffer ≠ [])), s.selected msecs round) := by
  unfold Socket.waitForReadOrWrite SelectFailed
  cases eq : round.select with
  | ready read write =>
    refine Or.inr ⟨read, write, rfl, ?_⟩
    simp [Socket.selected, eq]
  | timeout =>
    refine Or.inl ⟨_, ⟨by simp, .socketTimeoutError, ?_⟩, rfl⟩
    rw [Socket.selected, eq]
    rfl
  | fail e =>
    refine Or.inl ⟨_, ⟨by simp, (getSystemError e).errorCode, ?_⟩, rfl⟩
    rw [Socket.selected, eq]
    rfl

theorem AddsOnly.grows {p : Event → Prop} {s t : Socket} (h : AddsOnly p s t) :
    s.trace.length ≤ t.trace.length := by
  obtain ⟨events, eq, _⟩ := h
  rw [eq, List.length_append]
  omega

theorem Socket.mem_added {s t u : Socket} (grows : s.trace.length ≤ t.trace.length) {e : Event}
    (mem : e ∈ t.added u) : e ∈ s.added u := by
  have eq : t.added u = (s.added u).drop (t.trace.length - s.trace.length) := by
    rw [Socket.added, Socket.added, List.drop_drop, Nat.add_sub_cancel' grows]
  rw [eq] at mem
  exact List.mem_of_mem_drop mem

theorem Socket.selected_grows (msecs : Int32) (round : WaitRound) (s : Socket) :
    s.trace.length ≤ (s.selected msecs round).trace.length := by
  simp [Socket.selected, Socket.log]

/-- How a turn of `waitForReadyRead` ends when no slot is connected. -/
inductive ReadyReadTurn (msecs : Int32) (round : WaitRound) (s : Socket) : Turn Socket Bool → Prop
  | failed (t : Socket) : SelectFailed msecs round s t → ReadyReadTurn msecs round s (.done false t)
  | read (write ok : Bool) (t : Socket) : round.select = .ready true write →
      ReadStep round.read (s.selected msecs round) (ok, t) → ReadyReadTurn msecs round s (.done ok t)
  | ended (write : Bool) (t : Socket) : round.select = .ready false write →
      AddsOnly Event.ofWriting (s.selected msecs round) t → ReadyReadTurn msecs round s (.done false t)
  | again (write : Bool) (t : Socket) : round.select = .ready false write →
      AddsOnly Event.ofWriting (s.selected msecs round) t →
      t.buffer = s.buffer ∧ t.emittedReadyRead = s.emittedReadyRead →
      msecs = -1 ∨ 0 < Socket.timeoutValue msecs round.elapsedAfter → ReadyReadTurn msecs round s (.again t)

theorem readyReadTurn_cases (msecs : Int32) (round : WaitRound) (s : Socket) :
    ReadyReadTurn msecs round s (s.readyReadTurn Slot.idle msecs round) := by
  unfold Socket.readyReadTurn
  rcases select_cases msecs round s with ⟨t, failed, eq⟩ | ⟨read, write, ready, eq⟩
  · rw [eq]
    exact .failed t failed
  · rw [eq]
    cases read with
    | true => exact .read write _ _ ready (readNotification_step round.read (s.selected msecs round))
    | false =>
      have written : ∀ r, r = (if (write && decide (s.writeBuffer ≠ [])) = true then
          (s.selected msecs round).completeAsyncWrite Slot.idle round.write else (true, s.selected msecs round)) →
          AddsOnly Event.ofWriting (s.selected msecs round) r.2 ∧ r.2.buffer = s.buffer ∧
            r.2.emittedReadyRead = s.emittedReadyRead := by
        rintro r rfl
        have step := completeAsyncWrite_step round.write (s.selected msecs round)
        split
        · exact ⟨step.adds, step.reading⟩
        · exact ⟨.refl _, rfl, rfl⟩
      dsimp only
      rw [if_neg Bool.false_ne_true]
      generalize (if (write && decide (s.writeBuffer ≠ [])) = true then
        (s.selected msecs round).completeAsyncWrite Slot.idle round.write else (true, s.selected msecs round)) = r
        at written
      obtain ⟨adds, kept⟩ := written r rfl
      split
      next => exact .ended write _ ready adds
      next =>
        split
        next time => exact .again write _ ready adds kept time
        next => exact .ended write _ ready adds

/-- What the read step of a turn of `waitForBytesWritten` leaves, where it lets the turn go on. -/
def ReadFirst (read : Bool) (answers : List ReadAnswer) (s t : Socket) : Prop :=
  if read then ReadStep answers s (true, t) else t = s

theorem ReadFirst.adds {read : Bool} {answers : List ReadAnswer} {s t : Socket} (h : ReadFirst read answers s t) :
    AddsOnly Event.ofReading s t := by
  cases read with
  | true => exact ReadStep.adds (r := (true, t)) h
  | false =>
    rw [show t = s from h]
    exact .refl s

/-- How a turn of `waitForBytesWritten` ends when no slot is connected. -/
inductive BytesWrittenTurn (msecs : Int32) (round : WaitRound) (s : Socket) : Turn Socket Bool → Prop
  | failed (t : Socket) : SelectFailed msecs round s t → BytesWrittenTurn msecs round s (.done false t)
  | refused (write : Bool) (t : Socket) : round.select = .ready true write →
      ReadStep round.read (s.selected msecs round) (false, t) → BytesWrittenTurn msecs round s (.done false t)
  | wrote (read ok : Bool) (t u : Socket) : round.select = .ready read true → s.writeBuffer ≠ [] →
      ReadFirst read round.read (s.selected msecs round) t → CompleteStep round.write t (ok, u) →
      BytesWrittenTurn msecs round s (.done ok u)
  | again (read write : Bool) (t : Socket) : round.select = .ready read write →
      (write = true → s.writeBuffer = []) → ReadFirst read round.read (s.selected msecs round) t →
      BytesWrittenTurn msecs round s (.again t)

theorem bytesWrittenTurn_cases (msecs : Int32) (round : WaitRound) (s : Socket) :
    BytesWrittenTurn msecs round s (s.bytesWrittenTurn Slot.idle msecs round) := by
  unfold Socket.bytesWrittenTurn
  rcases select_cases msecs round s with ⟨t, failed, eq⟩ | ⟨read, write, ready, eq⟩
  · rw [eq]
    exact .failed t failed
  · have goes : ∀ t, ReadFirst read round.read (s.selected msecs round) t →
        BytesWrittenTurn msecs round s (if (write && decide (s.writeBuffer ≠ [])) = true then
          .done (t.completeAsyncWrite Slot.idle round.write).1 (t.completeAsyncWrite Slot.idle round.write).2
          else .again t) := by
      intro t first
      split
      next asked =>
        obtain ⟨rfl, waiting⟩ := Bool.and_eq_true_iff.mp asked
        exact .wrote read _ t _ ready (by simpa using waiting) first (completeAsyncWrite_step round.write t)
      next other =>
        refine .again read write t ready (fun writable => ?_) first
        simpa [writable] using other
    rw [eq]
    cases read with
    | false => exact goes _ rfl
    | true =>
      have step := readNotification_step round.read (s.selected msecs round)
      dsimp only
      rw [if_pos rfl]
      generalize (s.selected msecs round).readNotification Slot.idle round.read = r at step
      obtain ⟨received, t⟩ := r
      cases received with
      | false => exact .refused write t ready step
      | true => exact goes t step

/-- A round in which the descriptor is readable and nothing can be written. -/
def readableRound (answers : List ReadAnswer) (elapsed elapsedAfter : Int64) : WaitRound :=
  ⟨elapsed, .ready true false, answers, ⟨0, []⟩, elapsedAfter⟩

end CanSocket
