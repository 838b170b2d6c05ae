import CanSocket.ReadSide

namespace CanSocket

namespace Socket

/-- The space `readNotification` reserves: a chunk, or the room below the limit if that is less. -/
def roomToRead (s : Socket) : Int :=
  if s.readBufferMaxSize ≠ 0 ∧ s.readBufferMaxSize - s.buffer.length < s.protocol.readChunkSize then
    s.readBufferMaxSize - s.buffer.length
  else s.protocol.readChunkSize

def ReadBufferFull (s : Socket) : Prop :=
  s.readBufferMaxSize ≠ 0 ∧ s.readBufferMaxSize ≤ s.buffer.length

/-- With these answers `readFromSocket` fails, and the errno it leaves is that of a resource error. -/
def ResourceFailure (answers : List ReadAnswer) (s : Socket) : Prop :=
  (s.protocol.readFromSocket s.roomToRead (s.readAnswers answers)).ret < 0 ∧
    (getSystemError (s.fillSpace answers s.roomToRead).errno).errorCode = .socketResourceError

theorem readNotification_cases (slot : Slot) (answers : List ReadAnswer) (s : Socket) :
    (s.ReadBufferFull ∧ (s.readNotification slot answers).2 = s.setReadNotificationEnabled false) ∨
      s.roomToRead ≠ 0 ∧ s.readNotification slot answers = s.receive slot answers s.roomToRead := by
  unfold readNotification roomToRead
  dsimp only
  split
  next limited =>
    split
    next none => exact Or.inl ⟨⟨limited.1, by omega⟩, rfl⟩
    next some => exact Or.inr ⟨some, rfl⟩
  next =>
    refine Or.inr ⟨?_, rfl⟩
    cases s.protocol with
    | raw options => exact (by decide : (1152 : Int) ≠ 0)
    | isoTp fields => exact (by decide : (4096 : Int) ≠ 0)

end Socket

/-- What a read notification with no slot connected does to reception: it can only switch it
off, and it takes nothing out of the buffer. -/
structure Receives (answers : List ReadAnswer) (s t : Socket) : Prop where
  openMode : t.openMode = s.openMode
  limit : t.readBufferMaxSize = s.readBufferMaxSize
  grows : s.buffer.length ≤ t.buffer.length
  stops : s.isReadNotificationEnabled = true → t.isReadNotificationEnabled = false →
    s.ResourceFailure answers ∨ t.ReadBufferFull

theorem setRead_receives (answers : List ReadAnswer) {s : Socket} (full : s.ReadBufferFull) :
    Receives answers s (s.setReadNotificationEnabled false) := by
  obtain ⟨made, eq⟩ := s.setRead_eq false
  rw [eq]
  exact ⟨rfl, rfl, Nat.le_refl _, fun _ _ => Or.inr full⟩

theorem disableIfFull_eq (s : Socket) :
    ∃ notifier, s.disableIfFull = { s with readNotifier := notifier } ∧
      (s.isReadNotificationEnabled = true → s.disableIfFull.isReadNotificationEnabled = false →
        s.ReadBufferFull) := by
  unfold Socket.disableIfFull
  split
  next full =>
    exact ⟨_, s.setRead_false, fun _ _ => ⟨full.1, by omega⟩⟩
  next =>
    refine ⟨s.readNotifier, rfl, fun on off => ?_⟩
    rw [on] at off
    cases off

theorem Receives.emitted {answers : List ReadAnswer} {s t : Socket} (h : Receives answers s t) (newBytes : Int) :
    Receives answers s (t.emitReadyRead Slot.idle newBytes) := by
  unfold Socket.emitReadyRead
  split
  next => exact ⟨h.openMode, h.limit, h.grows, h.stops⟩
  next => exact h

theorem receive_receives {answers : List ReadAnswer} {s : Socket} (room : s.roomToRead ≠ 0) :
    Receives answers s (s.receive Slot.idle answers s.roomToRead).2 := by
  obtain ⟨hret, inside⟩ := s.protocol.readFromSocket_spec s.roomToRead (s.readAnswers answers)
  unfold Socket.receive
  dsimp only
  by_cases failed : (s.protocol.readFromSocket s.roomToRead (s.readAnswers answers)).ret < 0
  · rw [if_pos failed]
    have kept : Socket.chop s.roomToRead (s.fillSpace answers s.roomToRead).buffer = s.buffer :=
      Socket.chop_reserve_all inside
    unfold Socket.failReceive
    dsimp only
    split
    next other =>
      refine ⟨rfl, rfl, Nat.le_of_eq (congrArg List.length kept.symm), fun on off => ?_⟩
      have same : s.isReadNotificationEnabled = false := off
      rw [on] at same
      cases same
    next resource =>
      obtain ⟨made, eq⟩ := (s.fillSpace answers s.roomToRead).setRead_eq false
      rw [eq]
      exact ⟨rfl, rfl, Nat.le_of_eq (congrArg List.length kept.symm),
        fun _ _ => Or.inl ⟨failed, Classical.not_not.mp resource⟩⟩
  · rw [if_neg failed, if_neg room]
    have stored : (s.protocol.readFromSocket s.roomToRead (s.readAnswers answers)).ret =
        (s.protocol.readFromSocket s.roomToRead (s.readAnswers answers)).data.length := by omega
    have kept : Socket.chop (s.roomToRead - (s.protocol.readFromSocket s.roomToRead (s.readAnswers answers)).ret)
        (s.fillSpace answers s.roomToRead).buffer =
        s.buffer ++ (s.protocol.readFromSocket s.roomToRead (s.readAnswers answers)).data := by
      rw [stored]
      exact Socket.chop_reserve_rest inside
    rw [kept]
    obtain ⟨notifier, eq, full⟩ := disableIfFull_eq { s.fillSpace answers s.roomToRead with
      buffer := s.buffer ++ (s.protocol.readFromSocket s.roomToRead (s.readAnswers answers)).data }
    refine Receives.emitted ?_ _
    rw [eq] at full ⊢
    exact ⟨rfl, rfl, by simp, fun on off => Or.inr (full on off)⟩

theorem readNotification_receives (answers : List ReadAnswer) (s : Socket) :
    Receives answers s (s.step (.readNotification answers)) := by
  rcases s.readNotification_cases Slot.idle answers with ⟨full, eq⟩ | ⟨room, eq⟩
  · rw [Socket.step, Socket.exec, eq]
    exact setRead_receives answers full
  · rw [Socket.step, Socket.exec, eq]
    exact receive_receives room

/-- What bears on reception: outcomes of read notifications, reads by the user and
changes of the limit. -/
def Call.Receiving : Call → Prop
  | .readNotification _ => True
  | .read _ => True
  | .setReadBufferSize _ => True
  | _ => False

theorem readDevice_keeps (maxSize : Nat) (s : Socket) :
    (s.readDevice maxSize).openMode = s.openMode ∧
      (s.isReadNotificationEnabled = true → (s.readDevice maxSize).isReadNotificationEnabled = true) := by
  unfold Socket.readDevice
  split
  next => exact ⟨rfl, id⟩
  next =>
    dsimp only
    split
    next =>
      unfold Socket.readData
      split
      next =>
        obtain ⟨made, eq⟩ := Socket.setRead_eq true
          (({ s with buffer := s.buffer.drop maxSize }).log (.userRead (s.buffer.take maxSize)))
        refine ⟨?_, fun _ => Socket.setRead_isRead true _⟩
        rw [eq]
        rfl
      next => exact ⟨rfl, id⟩
    next => exact ⟨rfl, id⟩

theorem readDevice_restarts {maxSize : Nat} {s : Socket} (readable : s.openMode.readOnly = true)
    (more : s.buffer.length < maxSize) (limited : s.readBufferMaxSize ≠ 0) :
    (s.readDevice maxSize).isReadNotificationEnabled = true := by
  unfold Socket.readDevice
  rw [if_neg (by simp [readable])]
  dsimp only
  rw [if_pos ⟨by omega, by omega⟩]
  unfold Socket.readData
  split
  next => exact Socket.setRead_isRead true _
  next on =>
    by_contra off
    exact on ⟨limited, by simpa using off⟩

theorem step_openMode {c : Call} (receiving : c.Receiving) (s : Socket) :
    (s.step c).openMode = s.openMode := by
  cases c with
  | readNotification answers => exact (readNotification_receives answers s).openMode
  | read maxSize => exact (readDevice_keeps maxSize s).1
  | setReadBufferSize size =>
    unfold Socket.step Socket.exec Socket.setReadBufferSize
    dsimp only
    split <;> rfl
  | _ => exact receiving.elim

theorem step_stops {c : Call} (receiving : c.Receiving) {s : Socket} (on : s.isReadNotificationEnabled = true)
    (off : ¬(s.step c).isReadNotificationEnabled = true) : ∃ answers, c = .readNotification answers := by
  cases c with
  | readNotification answers => exact ⟨answers, rfl⟩
  | read maxSize => exact absurd ((readDevice_keeps maxSize s).2 on) off
  | setReadBufferSize size =>
    refine absurd ?_ off
    unfold Socket.step Socket.exec Socket.setReadBufferSize
    dsimp only
    split <;> exact on
  | _ => exact receiving.elim

theorem run_full {calls : List Call} (only : ∀ c ∈ calls, ∃ answers, c = .readNotification answers)
    {s : Socket} (full : s.ReadBufferFull) : (CallRun.run Socket.step calls s).ReadBufferFull := by
  refine CallRun.run_invariant ?_ (CallRun.guarded_of_all only s) full
  rintro c t ⟨answers, rfl⟩ ⟨limited, reached⟩
  have h := readNotification_receives answers t
  refine ⟨by rw [h.limit]; exact limited, ?_⟩
  rw [h.limit]
  have := h.grows
  omega

/-- A read notification stopped reception in this run and nothing since has started it again;
it met a resource error, or it left a full buffer, which is still full unless the user has
read or changed the limit since. -/
def ReceptionStopped (calls : List Call) (s : Socket) : Prop :=
  ∃ before answers after, calls = before ++ .readNotification answers :: after ∧
    (CallRun.run Socket.step before s).isReadNotificationEnabled = true ∧
    (∀ middle, middle <+: after → (CallRun.run Socket.step
      (before ++ .readNotification answers :: middle) s).isReadNotificationEnabled = false) ∧
    ((CallRun.run Socket.step before s).ResourceFailure answers ∨
      (CallRun.run Socket.step (before ++ [.readNotification answers]) s).ReadBufferFull ∧
        ((∀ c ∈ after, ∃ answers, c = .readNotification answers) →
          (CallRun.run Socket.step calls s).ReadBufferFull))

end CanSocket
