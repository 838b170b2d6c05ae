import CanSocket.Connection

namespace CanSocket

def Event.onReadSide : Event → Bool
  | .userRead _ => true
  | .readFromSocket .. => true
  | .read .. => true
  | _ => false

structure ReadView where
  protocol : Protocol
  buffer : List UInt8
  trace : List Event

def Socket.readView (s : Socket) : ReadView := ⟨s.protocol, s.buffer, s.trace.filter Event.onReadSide⟩

/-- A relation that the read side alone decides, kept where that side changes. While an error
is told the buffer still holds the space reserved for the read that failed, so the slots
connected to `error` stay out of it. -/
structure ReadSideKeep (p : ReadAnswer → Prop) (R : Socket → Socket → Prop) : Prop where
  trans : ∀ {s t u}, R s t → R t u → R s u
  same : ∀ {s t}, t.readView = s.readView → R s t
  receive : ∀ slot : Slot, (∀ sig s, R s (slot sig s)) → (∀ e s, slot (.error e) s = s) →
    ∀ answers, (∀ a ∈ answers, p a) → ∀ bytesToRead s, R s (Socket.receive slot answers bytesToRead s).2

variable {slot : Slot}

namespace Socket

theorem readView_log {e : Event} (other : e.onReadSide = false) (s : Socket) :
    (s.log e).readView = s.readView := by
  simp [readView, log, other]

@[simp] theorem readView_setRead (enable : Bool) (s : Socket) :
    (s.setReadNotificationEnabled enable).readView = s.readView := by
  obtain ⟨made, eq⟩ := s.setRead_eq enable
  rw [eq]
  rfl

@[simp] theorem readView_setWrite (enable : Bool) (s : Socket) :
    (s.setWriteNotificationEnabled enable).readView = s.readView := by
  obtain ⟨made, eq⟩ := s.setWrite_eq enable
  rw [eq]
  rfl

@[simp] theorem readView_disableIfFull (s : Socket) : s.disableIfFull.readView = s.readView := by
  unfold disableIfFull
  split <;> simp

@[simp] theorem readView_sendBlock (env : WriteEnv) (s : Socket) :
    (s.sendBlock env).readView = s.readView := by
  simp [readView, sendBlock, setErrno, Event.onReadSide, List.filter_eq_nil_iff]

@[simp] theorem readView_freeWritten (n : Int) (s : Socket) : (s.freeWritten n).readView = s.readView :=
  readView_log rfl _

theorem readView_setError (quiet : ∀ e s, slot (.error e) s = s) (info : CanAbstractSocketErrorInfo)
    (s : Socket) : (s.setError slot info).readView = s.readView := by
  unfold setError emit
  rw [quiet]
  exact readView_log rfl _

theorem readView_writeData (data : List UInt8) (s : Socket) : (s.writeData data).readView = s.readView := by
  have logged : (({ s with writeBuffer := s.writeBuffer ++ data }).log (.queued data)).readView =
      s.readView := readView_log rfl _
  unfold writeData
  dsimp only
  split
  next => rw [readView_setWrite, logged]
  next => exact logged

theorem readView_startAsyncWrite (quiet : ∀ e s, slot (.error e) s = s) (env : WriteEnv) (s : Socket) :
    (s.startAsyncWrite slot env).2.readView = s.readView := by
  unfold startAsyncWrite
  split
  next => rfl
  next =>
    dsimp only
    split
    next => split <;> simp [readView_setError quiet]
    next => split <;> simp

theorem readView_waitForReadOrWrite (quiet : ∀ e s, slot (.error e) s = s) (checkRead checkWrite : Bool)
    (msecs : Int32) (answer : SelectAnswer) (s : Socket) :
    (s.waitForReadOrWrite slot checkRead checkWrite msecs answer).2.readView = s.readView := by
  have logged := readView_log (e := .select s.descriptor checkRead checkWrite msecs answer) rfl s
  cases answer with
  | fail e => exact (readView_setError quiet _ _).trans logged
  | timeout => exact (readView_setError quiet _ _).trans logged
  | ready read write => exact logged

@[simp] theorem limit_setRead (enable : Bool) (s : Socket) :
    (s.setReadNotificationEnabled enable).readBufferMaxSize = s.readBufferMaxSize := by
  obtain ⟨made, eq⟩ := s.setRead_eq enable
  rw [eq]

@[simp] theorem limit_disableIfFull (s : Socket) : s.disableIfFull.readBufferMaxSize = s.readBufferMaxSize := by
  unfold disableIfFull
  split <;> simp

theorem limit_setError (quiet : ∀ e s, slot (.error e) s = s) (info : CanAbstractSocketErrorInfo) (s : Socket) :
    (s.setError slot info).readBufferMaxSize = s.readBufferMaxSize := by
  unfold setError emit
  rw [quiet]
  rfl

theorem failReceive_told (quiet : ∀ e s, slot (.error e) s = s) (bytesToRead : Int) (s : Socket) :
    ∃ t : Socket, t.readView = s.readView ∧ t.readBufferMaxSize = s.readBufferMaxSize ∧
      s.failReceive slot bytesToRead = { t with buffer := chop bytesToRead t.buffer } := by
  unfold failReceive
  dsimp only
  split
  next => exact ⟨_, readView_setError quiet _ s, limit_setError quiet _ s, rfl⟩
  next =>
    exact ⟨_, (readView_setError quiet _ _).trans (s.readView_setRead false),
      (limit_setError quiet _ _).trans (s.limit_setRead false), rfl⟩

/-- What a receiving step makes of the read side: the calls are made, and the bytes they
stored are kept unless the step fails. The limit of the buffer stays. -/
theorem receive_limited (quiet : ∀ e s, slot (.error e) s = s) (answers : List ReadAnswer) (bytesToRead : Int)
    (s : Socket) :
    ((s.protocol.readFromSocket bytesToRead (s.readAnswers answers)).ret < 0 ∧
      (s.receive slot answers bytesToRead).2.readView =
        { s.fillSpace answers bytesToRead with buffer := s.buffer }.readView ∧
      (s.receive slot answers bytesToRead).2.readBufferMaxSize = s.readBufferMaxSize) ∨
    0 ≤ (s.protocol.readFromSocket bytesToRead (s.readAnswers answers)).ret ∧
      ∃ (t : Socket) (newBytes : Int), t.readView = { s.fillSpace answers bytesToRead with
          buffer := s.buffer ++
            (s.protocol.readFromSocket bytesToRead (s.readAnswers answers)).data }.readView ∧
        t.readBufferMaxSize = s.readBufferMaxSize ∧
        (s.receive slot answers bytesToRead).2 = t.emitReadyRead slot newBytes := by
  obtain ⟨hret, inside⟩ := s.protocol.readFromSocket_spec bytesToRead (s.readAnswers answers)
  have limit : (s.fillSpace answers bytesToRead).readBufferMaxSize = s.readBufferMaxSize := rfl
  unfold receive
  dsimp only
  by_cases failed : (s.protocol.readFromSocket bytesToRead (s.readAnswers answers)).ret < 0
  · left
    refine ⟨failed, ?_⟩
    rw [if_pos failed]
    obtain ⟨t, told, same, eq⟩ := failReceive_told quiet bytesToRead (s.fillSpace answers bytesToRead)
    have buffer : t.buffer = (s.fillSpace answers bytesToRead).buffer := congrArg ReadView.buffer told
    have kept : chop bytesToRead t.buffer = s.buffer := by
      rw [buffer]
      exact chop_reserve_all inside
    rw [eq, kept]
    exact ⟨congrArg (fun v : ReadView => { v with buffer := s.buffer }) told, same.trans limit⟩
  · right
    have stored : (s.protocol.readFromSocket bytesToRead (s.readAnswers answers)).ret =
        (s.protocol.readFromSocket bytesToRead (s.readAnswers answers)).data.length := by omega
    refine ⟨by omega, ?_⟩
    rw [if_neg failed]
    split
    next none =>
      refine ⟨_, _, ?_, ?_, rfl⟩
      · rw [readView_disableIfFull, readView_setRead]
        simp [readView, fillSpace, setErrno, reserve, none]
      · rw [limit_disableIfFull, limit_setRead, limit]
    next =>
      refine ⟨_, _, ?_, ?_, rfl⟩
      · rw [readView_disableIfFull, stored]
        have kept := @chop_reserve_rest bytesToRead _ s.buffer inside
        exact congrArg (fun buffer => { s.fillSpace answers bytesToRead with buffer := buffer }.readView) kept
      · rw [limit_disableIfFull]
        exact limit

theorem receive_cases (quiet : ∀ e s, slot (.error e) s = s) (answers : List ReadAnswer) (bytesToRead : Int)
    (s : Socket) :
    ((s.protocol.readFromSocket bytesToRead (s.readAnswers answers)).ret < 0 ∧
      (s.receive slot answers bytesToRead).2.readView =
        { s.fillSpace answers bytesToRead with buffer := s.buffer }.readView) ∨
    0 ≤ (s.protocol.readFromSocket bytesToRead (s.readAnswers answers)).ret ∧
      ∃ (t : Socket) (newBytes : Int), t.readView = { s.fillSpace answers bytesToRead with
          buffer := s.buffer ++
            (s.protocol.readFromSocket bytesToRead (s.readAnswers answers)).data }.readView ∧
        (s.receive slot answers bytesToRead).2 = t.emitReadyRead slot newBytes := by
  rcases receive_limited quiet answers bytesToRead s with ⟨failed, view, _⟩ | ⟨ok, t, newBytes, view, _, eq⟩
  · exact Or.inl ⟨failed, view⟩
  · exact Or.inr ⟨ok, t, newBytes, view, eq⟩

end Socket

namespace ReadSideKeep

variable {p : ReadAnswer → Prop} {R : Socket → Socket → Prop}

theorem readNotification (h : ReadSideKeep p R) (slots : ∀ sig s, R s (slot sig s))
    (quiet : ∀ e s, slot (.error e) s = s) (answers : List ReadAnswer) (ok : ∀ a ∈ answers, p a)
    (s : Socket) : R s (s.readNotification slot answers).2 := by
  unfold Socket.readNotification
  dsimp only
  split
  next =>
    split
    next => exact h.same (s.readView_setRead false)
    next => exact h.receive slot slots quiet answers ok _ s
  next => exact h.receive slot slots quiet answers ok _ s

theorem emitBytesWritten (h : ReadSideKeep p R) (slots : ∀ sig s, R s (slot sig s)) (s : Socket) :
    R s (s.emitBytesWritten slot) := by
  unfold Socket.emitBytesWritten
  split
  next =>
    have marked : R s (({ s with emittedBytesWritten := true }).log
        (.signal (.bytesWritten s.pendingBytesWritten))) := h.same (Socket.readView_log rfl _)
    have emitted := h.trans marked (slots (.bytesWritten s.pendingBytesWritten) _)
    exact h.trans emitted (h.same rfl)
  next => exact h.same rfl

theorem completeAsyncWrite (h : ReadSideKeep p R) (slots : ∀ sig s, R s (slot sig s))
    (quiet : ∀ e s, slot (.error e) s = s) (env : WriteEnv) (s : Socket) :
    R s (s.completeAsyncWrite slot env).2 := by
  have reset : ∀ t : Socket, R t { t with writeSequenceStarted := false } := fun _ => h.same rfl
  have ready := h.trans (h.emitBytesWritten slots s) (reset _)
  unfold Socket.completeAsyncWrite
  dsimp only
  split
  next => exact h.trans ready (h.same (Socket.readView_setWrite false _))
  next => exact h.trans ready (h.same (Socket.readView_startAsyncWrite quiet env _))

theorem partsKeep (h : ReadSideKeep p R) (read : ∀ maxSize s, R s (Socket.readDevice maxSize s))
    (slots : ∀ sig s, R s (slot sig s)) (quiet : ∀ e s, slot (.error e) s = s) : PartsKeep slot p R where
  refl _ := h.same rfl
  trans := h.trans
  select _ _ _ answer s := h.same (s.readView_waitForReadOrWrite quiet _ _ _ answer)
  write data s := by
    unfold Socket.writeDevice
    split
    next => exact h.same rfl
    next => exact h.same (s.readView_writeData data)
  read := read
  limit size s := by
    unfold Socket.setReadBufferSize
    split <;> exact h.same rfl
  receive := h.readNotification slots quiet
  send := h.completeAsyncWrite slots quiet

end ReadSideKeep

def Signal.IsError (sig : Signal) : Prop := ∃ e, sig = .error e

def Call.Reads (p : ReadAnswer → Prop) (c : Call) : Prop := c.OnConnection ∧ ∀ a ∈ c.readAnswers, p a

theorem ReadSideKeep.script {p : ReadAnswer → Prop} {R : Socket → Socket → Prop} (h : ReadSideKeep p R)
    (read : ∀ maxSize s, R s (Socket.readDevice maxSize s)) {script : Script}
    (on : script.All (Call.Reads p) Signal.IsError) (s : Socket) : R s (script.exec s) :=
  CallRun.Script.run_rel (fun _ => h.same rfl) h.trans
    (fun _ slots quiet _ on s =>
      (h.partsKeep read slots fun e => quiet (.error e) ⟨e, rfl⟩).exec on.1 on.2 s) on s

end CanSocket
