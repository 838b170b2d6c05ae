import CanSocket.TransferSteps

namespace CanSocket

def ReadAnswer.failure : ReadAnswer → Option Errno
  | .got _ => none
  | .fail e => some e

def WriteAnswer.failure : WriteAnswer → Option Errno
  | .fail e => some e
  | _ => none

/-- The errno of a kernel call that moves bytes or waits to, if it fails. -/
def Event.failure : Event → Option Errno
  | .read _ _ call => call.answer.failure
  | .write _ call => call.answer.failure
  | .select _ _ _ _ (.fail e) => some e
  | _ => none

def failures (events : List Event) : List Errno := events.filterMap Event.failure

@[simp] theorem failures_append (before after : List Event) :
    failures (before ++ after) = failures before ++ failures after := List.filterMap_append

theorem failures_read (descriptor space : Int) (calls : List ReadCall) :
    failures (calls.map (Event.read descriptor space)) = calls.filterMap fun call => call.answer.failure :=
  List.filterMap_map

theorem failures_write (descriptor : Int) (calls : List WriteCall) :
    failures (calls.map (Event.write descriptor)) = calls.filterMap fun call => call.answer.failure :=
  List.filterMap_map

theorem failures_readEvents (answers : List ReadAnswer) (s : Socket) :
    failures (s.readEvents answers) = (s.readResult answers).calls.filterMap fun call => call.answer.failure :=
  failures_read _ _ _

theorem failures_writeEvents (env : WriteEnv) (s : Socket) :
    failures (s.writeEvents env) = (s.writeResult env).calls.filterMap fun call => call.answer.failure :=
  failures_write _ _

/-- Of the calls of a transfer at most the last fails, and the transfer fails with it unless the
errno is the one it tolerates. -/
structure EndsAtFailure (tolerated : Errno) (failed : List Errno) (ret : Int) (errno : Option Errno) : Prop where
  last : failed = errno.toList
  fails : ∀ e, errno = some e → (ret < 0 ↔ e ≠ tolerated)

theorem endsAtFailure_none (tolerated : Errno) (ret : Int) : EndsAtFailure tolerated [] ret none := by
  refine ⟨rfl, fun e failed => ?_⟩
  cases failed

theorem endsAtFailure_some {tolerated e : Errno} {ret : Int} (fails : ret < 0 ↔ e ≠ tolerated) :
    EndsAtFailure tolerated [e] ret (some e) := by
  refine ⟨rfl, fun f failed => ?_⟩
  rwa [← Option.some.inj failed]

theorem readLoop_endsAtFailure (fd : FlexibleDataRateFrames) (maxSize : Int) (answers : List ReadAnswer)
    (data : List UInt8) :
    EndsAtFailure .EAGAIN ((readLoop fd maxSize answers data).calls.filterMap fun call => call.answer.failure)
      (readLoop fd maxSize answers data).ret (readLoop fd maxSize answers data).errno := by
  induction answers generalizing data with
  | nil =>
    unfold readLoop
    split
    next => exact endsAtFailure_some (by simp)
    next => exact endsAtFailure_none _ _
  | cons answer answers ih =>
    unfold readLoop
    split
    next =>
      cases answer with
      | fail e =>
        dsimp only
        split
        next again => exact endsAtFailure_some (by simp [again])
        next other => exact endsAtFailure_some (by simp [other])
      | got bytes =>
        dsimp only
        split
        next => exact endsAtFailure_none _ _
        next =>
          split
          next => exact ⟨(ih _).last, (ih _).fails⟩
          next => exact endsAtFailure_none _ _
    next => exact endsAtFailure_none _ _

theorem writeLoop_endsAtFailure (fd : FlexibleDataRateFrames) (data : List UInt8) (answers : List WriteAnswer)
    (writtenBytes : Nat) :
    EndsAtFailure .ENOBUFS ((writeLoop fd data answers writtenBytes).calls.filterMap fun call => call.answer.failure)
      (writeLoop fd data answers writtenBytes).ret (writeLoop fd data answers writtenBytes).errno := by
  induction answers generalizing writtenBytes with
  | nil =>
    unfold writeLoop
    dsimp only
    split
    next => exact endsAtFailure_none _ _
    next =>
      split
      next => exact endsAtFailure_none _ _
      next => exact endsAtFailure_some (by simp)
  | cons answer answers ih =>
    by_cases room : (data.length : Int) - writtenBytes < frameSize fd
    · unfold writeLoop
      dsimp only
      rw [if_pos room]
      exact endsAtFailure_none _ _
    · cases size : sizeAt fd data writtenBytes with
      | none =>
        unfold writeLoop
        dsimp only
        rw [if_neg room, size]
        exact endsAtFailure_none _ _
      | some bytes =>
        by_cases refused : ∃ e, answer = .fail e
        · obtain ⟨e, rfl⟩ := refused
          unfold writeLoop
          dsimp only
          rw [if_neg room, size]
          dsimp only
          split
          next full => exact endsAtFailure_some (by simp [full])
          next other => exact endsAtFailure_some (by simp [other])
        · have accepts : ∀ e, answer ≠ .fail e := fun e eq => refused ⟨e, eq⟩
          have succeeds : answer.failure = none := by
            cases answer with
            | fail e => exact absurd rfl (accepts e)
            | all => rfl
            | count n => rfl
          have first : ∀ call : WriteCall, call.answer = answer →
              ([call].filterMap fun call => call.answer.failure) = [] := by
            intro call same
            simp [same, succeeds]
          rw [writeLoop_taken room size accepts]
          dsimp only
          split
          next =>
            rw [first _ rfl]
            exact endsAtFailure_none _ _
          next =>
            split
            next =>
              rw [first _ rfl]
              exact endsAtFailure_none _ _
            next =>
              have rest := ih (writtenBytes + (answer.taken ((data.drop writtenBytes).take bytes)).length)
              exact ⟨by simpa [succeeds] using rest.last, rest.fails⟩

/-- `qt_safe_read` tries again when interrupted, and comes back with any other failure. -/
theorem qtSafeRead_failure {maxSize : Nat} {answers : List ReadAnswer} {e : Errno} (other : e ≠ .EINTR)
    (failed : e ∈ (qtSafeRead maxSize answers).calls.filterMap fun call => call.answer.failure) :
    (qtSafeRead maxSize answers).ret = -1 := by
  induction answers with
  | nil => rfl
  | cons answer answers ih =>
    cases answer with
    | got bytes => simp [qtSafeRead, ReadAnswer.failure] at failed
    | fail e' =>
      by_cases interrupted : e' = .EINTR
      · simp only [qtSafeRead, if_pos interrupted, List.filterMap_cons, ReadAnswer.failure,
          List.mem_cons] at failed ⊢
        exact ih (failed.resolve_left fun eq => other (eq.trans interrupted))
      · simp only [qtSafeRead, if_neg interrupted]

theorem isoTpWriteToSocket_failure {data : List UInt8} {answers : List WriteAnswer} {e : Errno} (other : e ≠ .EINTR)
    (failed : e ∈ (isoTpWriteToSocket data answers).calls.filterMap fun call => call.answer.failure) :
    (isoTpWriteToSocket data answers).ret = -1 := by
  induction answers with
  | nil => rfl
  | cons answer answers ih =>
    cases answer with
    | all => simp [isoTpWriteToSocket, WriteAnswer.failure] at failed
    | count n => simp [isoTpWriteToSocket, WriteAnswer.failure] at failed
    | fail e' =>
      by_cases interrupted : e' = .EINTR
      · simp only [isoTpWriteToSocket, if_pos interrupted, List.filterMap_cons, WriteAnswer.failure,
          List.mem_cons] at failed ⊢
        exact ih (failed.resolve_left fun eq => other (eq.trans interrupted))
      · simp only [isoTpWriteToSocket, if_neg interrupted]

end CanSocket
