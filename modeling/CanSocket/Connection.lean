import CanSocket.PublicCalls

namespace CanSocket

def Call.readAnswers : Call → List ReadAnswer
  | .readNotification answers => answers
  | .waitForReadyRead _ rounds => rounds.flatMap WaitRound.read
  | .waitForBytesWritten _ rounds => rounds.flatMap WaitRound.read
  | _ => []

/-- The parts that the calls on a connection are made of keep `R`. -/
structure PartsKeep (slot : Slot) (p : ReadAnswer → Prop) (R : Socket → Socket → Prop) : Prop where
  refl : ∀ s, R s s
  trans : ∀ {s t u}, R s t → R t u → R s u
  select : ∀ checkRead checkWrite msecs answer s,
    R s (Socket.waitForReadOrWrite slot checkRead checkWrite msecs answer s).2
  write : ∀ data s, R s (Socket.writeDevice data s)
  read : ∀ maxSize s, R s (Socket.readDevice maxSize s)
  limit : ∀ size s, R s (Socket.setReadBufferSize size s)
  receive : ∀ answers, (∀ a ∈ answers, p a) → ∀ s, R s (Socket.readNotification slot answers s).2
  send : ∀ env s, R s (Socket.completeAsyncWrite slot env s).2

namespace PartsKeep

variable {slot : Slot} {p : ReadAnswer → Prop} {R : Socket → Socket → Prop}

theorem waitForReadyReadLoop (h : PartsKeep slot p R) {msecs : Int32} {rounds : List WaitRound}
    (ok : ∀ a ∈ rounds.flatMap WaitRound.read, p a) (s : Socket) :
    R s (s.waitForReadyReadLoop slot msecs rounds).2 := by
  induction rounds generalizing s with
  | nil => exact h.select _ _ _ _ s
  | cons round rounds ih =>
    have here : ∀ a ∈ round.read, p a := fun a ha => ok a (by simp [ha])
    have later : ∀ a ∈ rounds.flatMap WaitRound.read, p a :=
      fun a ha => ok a (List.mem_append_right _ ha)
    have selected := h.select true (s.writeBuffer ≠ []) (Socket.timeoutValue msecs round.elapsed)
      round.select s
    unfold Socket.waitForReadyReadLoop
    split
    next t eq => rwa [eq] at selected
    next readyToRead readyToWrite t eq =>
      rw [eq] at selected
      cases readyToRead with
      | true => exact h.trans selected (h.receive _ here t)
      | false =>
        have written : R t (if readyToWrite then t.completeAsyncWrite slot round.write else (true, t)).2 := by
          cases readyToWrite with
          | true => exact h.send _ t
          | false => exact h.refl t
        rw [if_neg Bool.false_ne_true]
        generalize (if readyToWrite then t.completeAsyncWrite slot round.write else (true, t)) = r at written
        have sofar := h.trans selected written
        dsimp only
        split
        next => exact sofar
        next =>
          split
          next => exact h.trans sofar (ih later _)
          next => exact sofar

theorem waitForBytesWrittenLoop (h : PartsKeep slot p R) {msecs : Int32} {rounds : List WaitRound}
    (ok : ∀ a ∈ rounds.flatMap WaitRound.read, p a) (s : Socket) :
    R s (s.waitForBytesWrittenLoop slot msecs rounds).2 := by
  induction rounds generalizing s with
  | nil => exact h.select _ _ _ _ s
  | cons round rounds ih =>
    have here : ∀ a ∈ round.read, p a := fun a ha => ok a (by simp [ha])
    have later : ∀ a ∈ rounds.flatMap WaitRound.read, p a :=
      fun a ha => ok a (List.mem_append_right _ ha)
    have selected := h.select true (s.writeBuffer ≠ []) (Socket.timeoutValue msecs round.elapsed)
      round.select s
    unfold Socket.waitForBytesWrittenLoop
    split
    next t eq => rwa [eq] at selected
    next readyToRead readyToWrite t eq =>
      rw [eq] at selected
      have received : R t (if readyToRead then t.readNotification slot round.read else (true, t)).2 := by
        cases readyToRead with
        | true => exact h.receive _ here t
        | false => exact h.refl t
      generalize (if readyToRead then t.readNotification slot round.read else (true, t)) = r at received
      have sofar := h.trans selected received
      dsimp only
      split
      next => exact sofar
      next =>
        split
        next => exact h.trans sofar (h.send _ _)
        next => exact h.trans sofar (ih later _)

theorem exec (h : PartsKeep slot p R) {c : Call} (on : c.OnConnection) (ok : ∀ a ∈ c.readAnswers, p a)
    (s : Socket) : R s (s.exec slot c) := by
  cases c with
  | connectToInterface => exact on.elim
  | close => exact on.elim
  | setSocketOption => exact on.elim
  | write data => exact h.write data s
  | read maxSize => exact h.read maxSize s
  | flush env => exact h.send env s
  | setReadBufferSize size => exact h.limit size s
  | readNotification answers => exact h.receive answers ok s
  | writeNotification env =>
    unfold Socket.exec
    dsimp only
    split
    next => exact h.send env s
    next => exact h.refl s
  | waitForReadyRead msecs rounds =>
    unfold Socket.exec Socket.waitForReadyRead
    dsimp only
    split
    next => exact h.refl s
    next => exact h.waitForReadyReadLoop ok s
  | waitForBytesWritten msecs rounds =>
    unfold Socket.exec Socket.waitForBytesWritten
    dsimp only
    split
    next => exact h.refl s
    next =>
      split
      next => exact h.refl s
      next => exact h.waitForBytesWrittenLoop ok s

end PartsKeep

end CanSocket
