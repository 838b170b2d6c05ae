import CanSocket.Connection

namespace CanSocket

def Event.onWriteSide : Event → Bool
  | .queued _ => true
  | .writeToSocket .. => true
  | .freed _ => true
  | .write .. => true
  | .signal (.bytesWritten _) => true
  | _ => false

structure WriteView where
  protocol : Protocol
  writeBuffer : List UInt8
  writeNotifier : Option Notifier
  emittedBytesWritten : Bool
  pendingBytesWritten : Int
  trace : List Event

def Socket.writeView (s : Socket) : WriteView :=
  ⟨s.protocol, s.writeBuffer, s.writeNotifier, s.emittedBytesWritten, s.pendingBytesWritten,
    s.trace.filter Event.onWriteSide⟩

/-- A relation that the write side alone decides, kept where that side changes. -/
structure WriteSideKeep (R : Socket → Socket → Prop) : Prop where
  trans : ∀ {s t u}, R s t → R t u → R s u
  same : ∀ {s t}, t.writeView = s.writeView → R s t
  write : ∀ data s, R s (Socket.writeData data s)
  send : ∀ slot : Slot, (∀ sig s, R s (slot sig s)) → ∀ env s, R s (Socket.completeAsyncWrite slot env s).2

namespace Socket

theorem writeView_log {e : Event} (other : e.onWriteSide = false) (s : Socket) :
    (s.log e).writeView = s.writeView := by
  simp [writeView, log, other]

@[simp] theorem writeView_setRead (enable : Bool) (s : Socket) :
    (s.setReadNotificationEnabled enable).writeView = s.writeView := by
  obtain ⟨made, eq⟩ := s.setRead_eq enable
  rw [eq]
  rfl

@[simp] theorem writeView_fillSpace (answers : List ReadAnswer) (bytesToRead : Int) (s : Socket) :
    (s.fillSpace answers bytesToRead).writeView = s.writeView := by
  simp [writeView, fillSpace, setErrno, Event.onWriteSide, List.filter_eq_nil_iff]

@[simp] theorem writeView_disableIfFull (s : Socket) : s.disableIfFull.writeView = s.writeView := by
  unfold disableIfFull
  split <;> simp

theorem nextDataBlock_ne_nil (env : WriteEnv) {s : Socket} (waiting : s.writeBuffer ≠ []) :
    s.nextDataBlock env ≠ [] := by
  have : 0 < s.writeBuffer.length := List.length_pos_iff.mpr waiting
  apply List.length_pos_iff.mp
  rw [nextDataBlock, List.length_take, nextDataBlockSize]
  omega

theorem nextDataBlock_take {env : WriteEnv} {s : Socket} {n : Nat} (bound : n ≤ (s.nextDataBlock env).length) :
    (s.nextDataBlock env).take n = s.writeBuffer.take n := by
  rw [nextDataBlock, List.length_take] at bound
  rw [nextDataBlock, List.take_take, Nat.min_eq_left (by omega)]

/-- The two ways a sending step ends: nothing is freed, or exactly what the kernel took is
and the notifier is on. -/
theorem startAsyncWrite_cases (slot : Slot) (env : WriteEnv) {s : Socket} (waiting : s.writeBuffer ≠ [])
    (idle : s.writeSequenceStarted = false) :
    (∃ info, (s.writeResult env).ret < 0 ∧
      (s.startAsyncWrite slot env).2 = (s.sendBlock env).setError slot info) ∨
    ∃ (n : Nat) (made : Option Notifier × List (Nat × Int)), (s.writeResult env).ret = n ∧
      n ≤ (s.nextDataBlock env).length ∧
      acceptedBytes (s.writeResult env).calls = (s.nextDataBlock env).take n ∧
      (s.startAsyncWrite slot env).2 =
        { (s.sendBlock env).freeWritten n with writeNotifier := made.1, watched := made.2 } ∧
      (s.startAsyncWrite slot env).2.isWriteNotificationEnabled = true := by
  have go : ¬(s.writeBuffer = [] ∨ s.writeSequenceStarted = true) := by simp [waiting, idle]
  unfold startAsyncWrite
  rw [if_neg go]
  dsimp only
  by_cases failed : (s.writeResult env).ret < 0
  · rw [if_pos failed]
    left
    split <;> exact ⟨_, failed, rfl⟩
  · obtain ⟨n, hn, bound, taken⟩ := Protocol.writeToSocket_accepted (Int.not_lt.mp failed)
    have ret : (s.writeResult env).ret = n := hn
    rw [if_neg failed, ret]
    right
    split
    next =>
      obtain ⟨made, eq⟩ := ((s.sendBlock env).freeWritten n).setWrite_eq true
      exact ⟨n, made, rfl, bound, taken, eq, setWrite_isWrite true _⟩
    next enabled => exact ⟨n, (s.writeNotifier, s.watched), rfl, bound, taken, rfl, by simpa using enabled⟩

/-- What `completeAsyncWrite` goes on with, its signal and the reset behind it. -/
def announced (slot : Slot) (s : Socket) : Socket :=
  { s.emitBytesWritten slot with writeSequenceStarted := false }

/-- What no flag bears on goes through the emission with the slots. -/
theorem announced_keeps {Inv : Socket → Prop} {slot : Slot} (slots : ∀ sig s, Inv s → Inv (slot sig s))
    (same : ∀ {s t : Socket}, Inv s →
      (t.protocol, t.writeBuffer, t.trace) = (s.protocol, s.writeBuffer, s.trace) → Inv t)
    (told : ∀ s n, Inv s → Inv (s.log (.signal (.bytesWritten n)))) {s : Socket} (h : Inv s) :
    Inv (s.announced slot) := by
  have emitted : Inv (s.emitBytesWritten slot) := by
    unfold emitBytesWritten
    split
    next =>
      have marked : Inv { s with emittedBytesWritten := true } := same h rfl
      exact same (slots _ _ (told _ s.pendingBytesWritten marked)) rfl
    next => exact h
  exact same emitted rfl

theorem completeAsyncWrite_cases (slot : Slot) (env : WriteEnv) (s : Socket) :
    ((s.announced slot).writeBuffer = [] ∧
      (s.completeAsyncWrite slot env).2 = (s.announced slot).setWriteNotificationEnabled false) ∨
    (s.announced slot).writeBuffer ≠ [] ∧
      (s.completeAsyncWrite slot env).2 = ((s.announced slot).startAsyncWrite slot env).2 := by
  by_cases h : (s.announced slot).writeBuffer = []
  · exact Or.inl ⟨h, congrArg Prod.snd (if_pos h)⟩
  · exact Or.inr ⟨h, congrArg Prod.snd (if_neg h)⟩

end Socket

/-- The view of what does not look at the notifier. -/
def WriteView.unnotified (v : WriteView) : WriteView := { v with writeNotifier := none }

/-- A relation that the write side without its notifier decides, kept by each step the bytes take. -/
structure WriteBytesKeep (R : Socket → Socket → Prop) : Prop where
  trans : ∀ {s t u}, R s t → R t u → R s u
  same : ∀ {s t}, t.writeView.unnotified = s.writeView.unnotified → R s t
  queued : ∀ data (s : Socket), R s (({ s with writeBuffer := s.writeBuffer ++ data }).log (.queued data))
  announced : ∀ slot : Slot, (∀ sig s, R s (slot sig s)) → ∀ s : Socket, R s (s.announced slot)
  failed : ∀ {s : Socket} {env}, s.writeBuffer ≠ [] → (s.writeResult env).ret < 0 → R s (s.sendBlock env)
  sent : ∀ {s : Socket} {env} {n : Nat}, s.writeBuffer ≠ [] → (s.writeResult env).ret = n →
    n ≤ (s.nextDataBlock env).length →
    acceptedBytes (s.writeResult env).calls = (s.nextDataBlock env).take n →
    R s ((s.sendBlock env).freeWritten n)

theorem WriteBytesKeep.writeSide {R : Socket → Socket → Prop} (h : WriteBytesKeep R) : WriteSideKeep R where
  trans := h.trans
  same same := h.same (congrArg WriteView.unnotified same)
  write data s := by
    have queued := h.queued data s
    unfold Socket.writeData
    dsimp only
    split
    next =>
      obtain ⟨made, eq⟩ := Socket.setWrite_eq true
        (({ s with writeBuffer := s.writeBuffer ++ data }).log (.queued data))
      rw [eq]
      exact h.trans queued (h.same rfl)
    next => exact queued
  send slot slots env s := by
    have ready : R s (s.announced slot) := h.announced slot slots s
    rcases s.completeAsyncWrite_cases slot env with ⟨_, eq⟩ | ⟨waiting, eq⟩
    · obtain ⟨made, off⟩ := (s.announced slot).setWrite_eq false
      rw [eq, off]
      exact h.trans ready (h.same rfl)
    · rw [eq]
      rcases (s.announced slot).startAsyncWrite_cases slot env waiting rfl with
        ⟨info, failed, eq⟩ | ⟨n, made, ret, bound, taken, eq, _⟩
      · have told : R ((s.announced slot).sendBlock env)
            (({ (s.announced slot).sendBlock env with
              error := info.errorCode, errorString := info.errorString }).log (.signal (.error info.errorCode))) :=
          h.same (congrArg WriteView.unnotified (Socket.writeView_log rfl _))
        rw [eq]
        exact h.trans (h.trans (h.trans ready (h.failed waiting failed)) told) (slots _ _)
      · rw [eq]
        exact h.trans (h.trans ready (h.sent waiting ret bound taken)) (h.same rfl)

namespace WriteSideKeep

variable {R : Socket → Socket → Prop} {slot : Slot}

theorem emit (h : WriteSideKeep R) (slots : ∀ sig s, R s (slot sig s)) {sig : Signal}
    (other : (Event.signal sig).onWriteSide = false) (s : Socket) : R s (s.emit slot sig) :=
  h.trans (h.same (Socket.writeView_log other s)) (slots sig _)

theorem setError (h : WriteSideKeep R) (slots : ∀ sig s, R s (slot sig s))
    (info : CanAbstractSocketErrorInfo) (s : Socket) : R s (s.setError slot info) := by
  have stored : R s { s with error := info.errorCode, errorString := info.errorString } := h.same rfl
  exact h.trans stored (h.emit slots rfl _)

theorem setSystemError (h : WriteSideKeep R) (slots : ∀ sig s, R s (slot sig s)) (e : Errno)
    (s : Socket) : R s (s.setSystemError slot e) := by
  have stored : R s (s.setErrno (some e)) := h.same rfl
  exact h.trans stored (h.setError slots _ _)

theorem failReceive (h : WriteSideKeep R) (slots : ∀ sig s, R s (slot sig s)) (bytesToRead : Int)
    (s : Socket) : R s (s.failReceive slot bytesToRead) := by
  have chopped : ∀ t : Socket, R s t → R s { t with buffer := Socket.chop bytesToRead t.buffer } :=
    fun t kept => h.trans kept (h.same rfl)
  unfold Socket.failReceive
  apply chopped
  split
  next => exact h.setError slots _ s
  next => exact h.trans (h.same (s.writeView_setRead false)) (h.setError slots _ _)

theorem emitReadyRead (h : WriteSideKeep R) (slots : ∀ sig s, R s (slot sig s)) (newBytes : Int)
    (s : Socket) : R s (s.emitReadyRead slot newBytes) := by
  unfold Socket.emitReadyRead
  split
  next =>
    have marked : R s (({ s with emittedReadyRead := true }).log (.signal .readyRead)) :=
      h.same (Socket.writeView_log rfl _)
    have emitted := h.trans marked (slots .readyRead _)
    exact h.trans emitted (h.same rfl)
  next => exact h.same rfl

theorem receive (h : WriteSideKeep R) (slots : ∀ sig s, R s (slot sig s)) (answers : List ReadAnswer)
    (bytesToRead : Int) (s : Socket) : R s (s.receive slot answers bytesToRead).2 := by
  have filled := h.same (s.writeView_fillSpace answers bytesToRead)
  have ended : ∀ (t : Socket) (newBytes : Int), R s t → R s (t.disableIfFull.emitReadyRead slot newBytes) :=
    fun t newBytes kept =>
      h.trans (h.trans kept (h.same t.writeView_disableIfFull)) (h.emitReadyRead slots newBytes _)
  unfold Socket.receive
  dsimp only
  split
  next => exact h.trans filled (h.failReceive slots _ _)
  next =>
    split
    next => exact ended _ _ (h.trans filled (h.same (Socket.writeView_setRead false _)))
    next => exact ended _ _ (h.trans filled (h.same rfl))

theorem readNotification (h : WriteSideKeep R) (slots : ∀ sig s, R s (slot sig s))
    (answers : List ReadAnswer) (s : Socket) : R s (s.readNotification slot answers).2 := by
  unfold Socket.readNotification
  dsimp only
  split
  next =>
    split
    next => exact h.same (s.writeView_setRead false)
    next => exact h.receive slots _ _ s
  next => exact h.receive slots _ _ s

theorem waitForReadOrWrite (h : WriteSideKeep R) (slots : ∀ sig s, R s (slot sig s))
    (checkRead checkWrite : Bool) (msecs : Int32) (answer : SelectAnswer) (s : Socket) :
    R s (s.waitForReadOrWrite slot checkRead checkWrite msecs answer).2 := by
  have logged := h.same (Socket.writeView_log
    (e := .select s.descriptor checkRead checkWrite msecs answer) rfl s)
  cases answer with
  | fail e => exact h.trans logged (h.setSystemError slots e _)
  | timeout => exact h.trans logged (h.setError slots _ _)
  | ready read write => exact logged

theorem readDevice (h : WriteSideKeep R) (maxSize : Nat) (s : Socket) : R s (s.readDevice maxSize) := by
  unfold Socket.readDevice
  split
  next => exact h.same rfl
  next =>
    have taken : R s (({ s with buffer := s.buffer.drop maxSize }).log (.userRead (s.buffer.take maxSize))) :=
      h.same (Socket.writeView_log rfl _)
    dsimp only
    split
    next =>
      refine h.trans taken ?_
      unfold Socket.readData
      split
      next => exact h.same (Socket.writeView_setRead true _)
      next => exact h.same rfl
    next => exact taken

theorem partsKeep (h : WriteSideKeep R) (slots : ∀ sig s, R s (slot sig s)) :
    PartsKeep slot (fun _ => True) R where
  refl _ := h.same rfl
  trans := h.trans
  select := h.waitForReadOrWrite slots
  write data s := by
    unfold Socket.writeDevice
    split
    next => exact h.same rfl
    next => exact h.write data s
  read := h.readDevice
  limit size s := by
    unfold Socket.setReadBufferSize
    split <;> exact h.same rfl
  receive answers _ := h.readNotification slots answers
  send := h.send slot slots

theorem script (h : WriteSideKeep R) {script : Script} (on : script.All Call.OnConnection fun _ => False)
    (s : Socket) : R s (script.exec s) :=
  CallRun.Script.run_rel (fun _ => h.same rfl) h.trans
    (fun _ slots _ _ on s => (h.partsKeep slots).exec on (fun _ _ => trivial) s) on s

end WriteSideKeep

end CanSocket
