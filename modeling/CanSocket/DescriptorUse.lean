import CanSocket.LiveDescriptors

namespace CanSocket

open History

/-- No time is left at the end of this turn. -/
def WaitRound.Last (msecs : Int32) (round : WaitRound) : Prop :=
  ¬(msecs = -1 ∨ 0 < Socket.timeoutValue msecs round.elapsedAfter)

/-- Where the call makes a transfer, waits or makes a notifier before any slot is run, the socket is attached. -/
def Call.Orderly (c : Call) (s : Socket) : Prop :=
  match c with
  | .write data => s.openMode.writeOnly = true → s.writeBuffer ++ data ≠ [] → s.writeNotifier = none → s.Attached
  | .read maxSize =>
    s.openMode.readOnly = true → 0 < maxSize → s.buffer.length ≤ maxSize → s.readBufferMaxSize ≠ 0 →
      s.readNotifier = none → s.Attached
  | .flush env => ¬s.PendingReport → s.Attached ∨ s.SendsNothing env
  | .writeNotification env =>
    s.isWriteNotificationEnabled = true → ¬s.PendingReport → s.Attached ∨ s.SendsNothing env
  | .readNotification _ => s.Attached ∨ s.ReadsNothing
  | .waitForReadyRead .. => s.state ≠ .unconnectedState → s.Attached
  | .waitForBytesWritten .. =>
    s.state ≠ .unconnectedState → ¬(s.writeBuffer = [] ∧ s.pendingBytesWritten ≤ 0) → s.Attached
  | _ => True

/-- What the slots of a signal leave to a call that goes on to a transfer or a wait. -/
def Call.Resumes (c : Call) (sig : Signal) (s : Socket) : Prop :=
  match c, sig with
  | .flush env, .bytesWritten _ => s.Attached ∨ s.SendsNothing env
  | .writeNotification env, .bytesWritten _ => s.Attached ∨ s.SendsNothing env
  | .waitForReadyRead msecs rounds, .bytesWritten _ =>
    s.Attached ∨ ∀ round ∈ rounds, s.SendsNothing round.write ∧ round.Last msecs
  | .waitForBytesWritten _ rounds, .bytesWritten _ => s.Attached ∨ ∀ round ∈ rounds, s.SendsNothing round.write
  | .waitForBytesWritten .., .readyRead => s.Attached
  | _, _ => True

/-- A run whose calls, nested ones included, all begin and resume like this. -/
def Script.Orderly (script : Script) (s : Socket) : Prop :=
  script.Guarded (fun slot call s => s.exec slot call) Socket.now Call.Orderly Call.Resumes s

namespace Socket

variable {s t : Socket} {slot : Slot}

theorem SendsNothing.same {env : WriteEnv} (h : s.SendsNothing env)
    (same : (t.protocol, t.writeBuffer, t.writeNotifier) = (s.protocol, s.writeBuffer, s.writeNotifier)) :
    t.SendsNothing env := by
  obtain ⟨protocol, writeBuffer, writeNotifier⟩ :
      t.protocol = s.protocol ∧ t.writeBuffer = s.writeBuffer ∧ t.writeNotifier = s.writeNotifier := by
    simpa using same
  unfold SendsNothing nextDataBlock nextDataBlockSize at h ⊢
  rwa [protocol, writeBuffer, writeNotifier]

/-- What the flags do not bear on holds behind the emission if the slots leave it so, or else if it held. -/
theorem emitBytesWritten_resumes {P : Socket → Prop} (here : ¬s.PendingReport → P s)
    (slots : ∀ n t, P (slot (.bytesWritten n) t))
    (same : ∀ {s t : Socket}, P s → (t.protocol, t.writeBuffer, t.descriptor, t.writeNotifier, t.trace) =
      (s.protocol, s.writeBuffer, s.descriptor, s.writeNotifier, s.trace) → P t) :
    P (s.emitBytesWritten slot) := by
  unfold emitBytesWritten
  split
  next => exact same (slots s.pendingBytesWritten _) rfl
  next silent => exact here fun reports => silent ⟨reports.1, by simpa using reports.2⟩

theorem Attached.selected {checkRead checkWrite : Bool} {msecs : Int32} {answer : SelectAnswer} {ready : Bool × Bool}
    (h : s.Attached) (eq : s.waitForReadOrWrite slot checkRead checkWrite msecs answer = (some ready, t)) :
    t.Attached := by
  unfold waitForReadOrWrite at eq
  cases answer with
  | fail e => cases eq
  | timeout => cases eq
  | ready read write =>
    cases eq
    exact h.logged [.select s.descriptor checkRead checkWrite msecs (.ready read write)] rfl (by simp [Event.keepsLive])

/-- A sending step that succeeds runs no slot. -/
theorem Attached.startAsyncWrite (h : s.Attached) {env : WriteEnv} (ok : (s.startAsyncWrite slot env).1 = true) :
    (s.startAsyncWrite slot env).2.Attached := by
  unfold Socket.startAsyncWrite at ok ⊢
  split
  next => exact h
  next going =>
    rw [if_neg going] at ok
    dsimp only at ok ⊢
    split
    next failed =>
      rw [if_pos failed] at ok
      split at ok <;> cases ok
    next =>
      have sent := h.sent env (s.writeResult env).ret
      split
      next =>
        obtain ⟨made, eq⟩ := ((s.sendBlock env).freeWritten (s.writeResult env).ret).setWrite_eq true
        rw [eq]
        exact sent.same rfl
      next => exact sent

theorem Attached.completeAsyncWrite {env : WriteEnv} (h : (s.emitBytesWritten slot).Attached)
    (ok : (s.completeAsyncWrite slot env).1 = true) : (s.completeAsyncWrite slot env).2.Attached := by
  unfold Socket.completeAsyncWrite at ok ⊢
  dsimp only at ok ⊢
  split
  next =>
    obtain ⟨made, eq⟩ := ({ s.emitBytesWritten slot with writeSequenceStarted := false } : Socket).setWrite_eq false
    rw [eq]
    exact h.same rfl
  next waiting =>
    rw [if_neg waiting] at ok
    have reset : Attached { s.emitBytesWritten slot with writeSequenceStarted := false } := h.same rfl
    exact reset.startAsyncWrite ok

theorem Attached.emitReadyRead (h : s.Attached) (slots : ∀ t, (slot .readyRead t).Attached) (newBytes : Int) :
    (s.emitReadyRead slot newBytes).Attached := by
  unfold Socket.emitReadyRead
  split
  next => exact (slots _).same rfl
  next => exact h

theorem Attached.disableIfFull (h : s.Attached) : s.disableIfFull.Attached := by
  obtain ⟨notifier, eq, _⟩ := disableIfFull_eq s
  rw [eq]
  exact h.same rfl

theorem Attached.receive (h : s.Attached) (slots : ∀ t, (slot .readyRead t).Attached) {answers : List ReadAnswer}
    {bytesToRead : Int} (ok : (s.receive slot answers bytesToRead).1 = true) :
    (s.receive slot answers bytesToRead).2.Attached := by
  have filled : (s.fillSpace answers bytesToRead).Attached := by
    refine h.logged (.readFromSocket bytesToRead (s.readAnswers answers) ::
      (s.protocol.readFromSocket bytesToRead (s.readAnswers answers)).calls.map
        (Event.read s.descriptor bytesToRead)) rfl ?_
    simp [Event.keepsLive]
  have told : ∀ (t : Socket) (newBytes : Int), t.Attached → (t.disableIfFull.emitReadyRead slot newBytes).Attached :=
    fun t newBytes there => there.disableIfFull.emitReadyRead slots newBytes
  unfold Socket.receive at ok ⊢
  dsimp only at ok ⊢
  split
  next failed =>
    rw [if_pos failed] at ok
    cases ok
  next =>
    split
    next =>
      rw [setRead_false]
      exact told _ _ (filled.same rfl)
    next => exact told _ _ (filled.same rfl)

theorem Attached.readNotification (h : s.Attached) (slots : ∀ t, (slot .readyRead t).Attached)
    {answers : List ReadAnswer} (ok : (s.readNotification slot answers).1 = true) :
    (s.readNotification slot answers).2.Attached := by
  unfold Socket.readNotification at ok ⊢
  dsimp only at ok ⊢
  split
  next limited =>
    rw [if_pos limited] at ok
    split
    next full =>
      rw [if_pos full] at ok
      cases ok
    next room =>
      rw [if_neg room] at ok
      exact h.receive slots ok
  next unlimited =>
    rw [if_neg unlimited] at ok
    exact h.receive slots ok

end Socket

namespace Anchored

variable {known : Prop} {s t : Socket} {slot : Slot}

theorem send (h : Anchored known s) (rely : ∀ sig s, KeepsLive s (slot sig s)) {env : WriteEnv}
    (here : ¬s.PendingReport → s.Attached ∨ s.SendsNothing env)
    (resumes : ∀ n t, (slot (.bytesWritten n) t).Attached ∨ (slot (.bytesWritten n) t).SendsNothing env) :
    Anchored known (s.completeAsyncWrite slot env).2 := by
  refine h.completeAsyncWrite rely (Socket.emitBytesWritten_resumes (P := fun u => u.Attached ∨ u.SendsNothing env)
    here resumes fun ready same => ?_)
  simp only [Prod.mk.injEq] at same
  exact ready.imp (fun there => there.same (by simp [same])) fun nothing => nothing.same (by simp [same])

theorem readyReadLoop (rely : ∀ sig s, KeepsLive s (slot sig s)) {msecs : Int32} {all rounds : List WaitRound}
    (resumes : ∀ n t, (slot (.bytesWritten n) t).Attached ∨
      ∀ round ∈ all, (slot (.bytesWritten n) t).SendsNothing round.write ∧ round.Last msecs)
    (given : ∀ round ∈ rounds, round ∈ all) (h : Anchored known s) (there : s.Attached) :
    Anchored known (s.waitForReadyReadLoop slot msecs rounds).2 := by
  induction rounds generalizing s with
  | nil => exact h.waitForReadOrWrite rely there _ _ _ _
  | cons round rounds ih =>
    have waited := h.waitForReadOrWrite rely there true (s.writeBuffer ≠ [])
      (Socket.timeoutValue msecs round.elapsed) round.select
    unfold Socket.waitForReadyReadLoop
    split
    next t eq => rwa [eq] at waited
    next readyToRead readyToWrite t eq =>
      rw [eq] at waited
      have there := there.selected eq
      cases readyToRead with
      | true => exact waited.readNotification rely (Or.inl there) round.read
      | false =>
        -- behind the signal the socket is attached still, or this turn is the last and sends nothing
        have written : ∀ r, r = (if readyToWrite then t.completeAsyncWrite slot round.write else (true, t)) →
            Anchored known r.2 ∧ (r.1 = true → r.2.Attached ∨ round.Last msecs) := by
          rintro r rfl
          have mine := given round List.mem_cons_self
          cases readyToWrite with
          | false => exact ⟨waited, fun _ => Or.inl there⟩
          | true =>
            refine ⟨waited.send rely (fun _ => Or.inl there)
              fun n t => (resumes n t).imp id fun last => (last round mine).1, fun ok => ?_⟩
            have behind : (t.emitBytesWritten slot).Attached ∨ round.Last msecs :=
              Socket.emitBytesWritten_resumes (P := fun u => u.Attached ∨ round.Last msecs) (fun _ => Or.inl there)
                (fun n t => (resumes n t).imp id fun last => (last round mine).2)
                fun ready same => ready.imp (fun there => there.same (by simp_all)) id
            exact behind.imp (fun there => Socket.Attached.completeAsyncWrite there ok) id
        dsimp only
        rw [if_neg Bool.false_ne_true]
        generalize (if readyToWrite then t.completeAsyncWrite slot round.write else (true, t)) = r at written
        obtain ⟨anchored, resumed⟩ := written r rfl
        split
        next => exact anchored
        next ok =>
          split
          next more =>
            have attached := (resumed (by simpa using ok)).resolve_right (not_not.mpr more)
            exact ih (fun later mem => given later (List.mem_cons_of_mem _ mem)) anchored attached
          next => exact anchored

theorem bytesWrittenLoop (rely : ∀ sig s, KeepsLive s (slot sig s)) {msecs : Int32} {all rounds : List WaitRound}
    (read : ∀ t, (slot .readyRead t).Attached)
    (resumes : ∀ n t, (slot (.bytesWritten n) t).Attached ∨
      ∀ round ∈ all, (slot (.bytesWritten n) t).SendsNothing round.write)
    (given : ∀ round ∈ rounds, round ∈ all) (h : Anchored known s) (there : s.Attached) :
    Anchored known (s.waitForBytesWrittenLoop slot msecs rounds).2 := by
  induction rounds generalizing s with
  | nil => exact h.waitForReadOrWrite rely there _ _ _ _
  | cons round rounds ih =>
    have waited := h.waitForReadOrWrite rely there true (s.writeBuffer ≠ [])
      (Socket.timeoutValue msecs round.elapsed) round.select
    unfold Socket.waitForBytesWrittenLoop
    split
    next t eq => rwa [eq] at waited
    next readyToRead readyToWrite t eq =>
      rw [eq] at waited
      have there := there.selected eq
      have received : ∀ r, r = (if readyToRead then t.readNotification slot round.read else (true, t)) →
          Anchored known r.2 ∧ (r.1 = true → r.2.Attached) := by
        rintro r rfl
        cases readyToRead with
        | false => exact ⟨waited, fun _ => there⟩
        | true => exact ⟨waited.readNotification rely (Or.inl there) round.read, there.readNotification read⟩
      dsimp only
      generalize (if readyToRead then t.readNotification slot round.read else (true, t)) = r at received
      obtain ⟨anchored, resumed⟩ := received r rfl
      split
      next => exact anchored
      next ok =>
        have attached := resumed (by simpa using ok)
        split
        next =>
          exact anchored.send rely (fun _ => Or.inl attached)
            fun n t => (resumes n t).imp id fun nothing => nothing round (given round List.mem_cons_self)
        next => exact ih (fun later mem => given later (List.mem_cons_of_mem _ mem)) anchored attached

theorem unknown (h : Anchored True s) : Anchored known s := ⟨h.toOnLiveDescriptors, fun _ => h.field trivial⟩

/-- The slots of the error a failing `::close` tells find the field on the descriptor that is closed. -/
theorem closeDescriptor (h : Anchored known s) (rely : ∀ sig s, KeepsLive s (slot sig s)) (answer : Option Errno) :
    Anchored True (s.closeDescriptor slot answer) := by
  have cleared : ∀ {u v : Socket}, Anchored False u → v.descriptor = -1 →
      (v.readNotifier, v.writeNotifier, v.watched, v.trace) =
        (u.readNotifier, u.writeNotifier, u.watched, u.trace) → Anchored True v := by
    intro u v hu descriptor same
    obtain ⟨readNotifier, writeNotifier, watched, trace⟩ : v.readNotifier = u.readNotifier ∧
        v.writeNotifier = u.writeNotifier ∧ v.watched = u.watched ∧ v.trace = u.trace := by simpa using same
    refine ⟨⟨?_, ?_, ?_, ?_⟩, fun _ there => absurd descriptor there⟩
    · exact trace ▸ hu.transfers
    · rw [watched, trace]
      exact hu.watching
    · rw [readNotifier, trace]
      exact hu.reading
    · rw [writeNotifier, trace]
      exact hu.writing
  have unwatched : Anchored False { s with readNotifier := none, writeNotifier := none } :=
    ⟨⟨h.transfers, h.watching, nofun, nofun⟩, False.elim⟩
  unfold Socket.closeDescriptor
  dsimp only
  split
  next =>
    have closed : Anchored False (({ s with readNotifier := none, writeNotifier := none } : Socket).log
        (.closed s.descriptor)) := by
      refine ⟨⟨?_, fun made mem => ?_, nofun, nofun⟩, False.elim⟩
      · exact (eachAfter_concat _ _).mpr ⟨h.transfers, fun d uses => nomatch uses⟩
      · obtain ⟨before, live⟩ := h.watching made mem
        refine ⟨Nat.le_trans before (by simp [Socket.log]), ?_⟩
        rwa [Socket.log, List.take_append_of_le_length before]
    cases answer with
    | none => exact cleared closed rfl rfl
    | some e => exact cleared (closed.setSystemError rely e) rfl rfl
  next => exact cleared unwatched rfl rfl

theorem close (h : Anchored known s) (rely : ∀ sig s, KeepsLive s (slot sig s)) (answer : Option Errno) :
    Anchored known (s.close slot answer) := by
  unfold Socket.close
  split
  next => exact h
  next =>
    have begun : Anchored known { s with openMode := .notOpen, buffer := [], errorString := .text "" } := h.same rfl
    have closing := begun.setSocketState rely .closingState
    exact ((closing.closeDescriptor rely answer).unknown).setSocketState rely _

theorem opened (h : Anchored known s) (descriptor : Nat) :
    Anchored True (({ s with descriptor := descriptor } : Socket).log (.opened descriptor)) := by
  have more : liveDescriptors (s.trace ++ [.opened descriptor]) = (descriptor : Int) :: liveDescriptors s.trace :=
    live_concat ..
  constructor
  · constructor
    · exact (eachAfter_concat _ _).mpr ⟨h.transfers, fun d uses => nomatch uses⟩
    · intro made mem
      obtain ⟨before, live⟩ := h.watching made mem
      refine ⟨Nat.le_trans before (by simp [Socket.log]), ?_⟩
      rwa [Socket.log, List.take_append_of_le_length before]
    · intro n at_n
      exact more ▸ List.mem_cons_of_mem _ (h.reading n at_n)
    · intro n at_n
      exact more ▸ List.mem_cons_of_mem _ (h.writing n at_n)
  · intro _ _
    change (descriptor : Int) ∈ liveDescriptors (s.trace ++ [.opened descriptor])
    exact more ▸ List.mem_cons_self

/-- Where the private connect comes through, the kernel bound the descriptor of the field, so it is a live one. -/
theorem openDescriptor (h : Anchored known s) (rely : ∀ sig s, KeepsLive s (slot sig s)) (interfaceName : String)
    (env : ConnectEnv) : Anchored known (s.openDescriptor slot interfaceName env).2 ∧
      ((s.openDescriptor slot interfaceName env).1 = true →
        (s.openDescriptor slot interfaceName env).2.Attached) := by
  unfold Socket.openDescriptor
  dsimp only
  split
  next e _ =>
    have none : Anchored known { s with descriptor := -1 } :=
      ⟨⟨h.transfers, h.watching, h.reading, h.writing⟩, fun _ => absurd rfl⟩
    exact ⟨none.setSystemError rely e, nofun⟩
  next descriptor _ =>
    have opened := h.opened descriptor
    have replayed := opened.replayOptions rely env.setsockopt (Socket.connectOptions env) 0
    split
    next => exact ⟨(opened.setSystemError rely _).unknown, nofun⟩
    next =>
      split
      next => exact ⟨(opened.setSystemError rely _).unknown, nofun⟩
      next =>
        split
        next t eq =>
          rw [eq] at replayed
          exact ⟨replayed.unknown, nofun⟩
        next t eq =>
          rw [eq] at replayed
          have bound : Anchored True (t.log (.bind t.descriptor s.protocol.bindIds
              (if t.descriptor = -1 then some .EBADF else env.bind))) := replayed.log rfl rfl
          split
          next => exact ⟨(bound.setSystemError rely _).unknown, nofun⟩
          next granted =>
            refine ⟨bound.unknown, fun _ => bound.field trivial fun none => ?_⟩
            have none : t.descriptor = -1 := none
            rw [if_pos none] at granted
            cases granted

theorem connectToInterface (h : Anchored known s) (rely : ∀ sig s, KeepsLive s (slot sig s)) (interfaceName : String)
    (mode : OpenMode) (env : ConnectEnv) :
    Anchored known (s.connectToInterface slot interfaceName mode env).2 := by
  unfold Socket.connectToInterface
  split
  next => exact h.setError rely _
  next =>
    split
    next => exact h.setError rely _
    next =>
      have begun : Anchored known { s with
          interfaceName := interfaceName
          state := .unconnectedState
          buffer := []
          writeBuffer := []
          openMode := mode } := h.same rfl
      have connecting := begun.setSocketState rely .connectingState
      obtain ⟨opened, attached⟩ := connecting.openDescriptor rely interfaceName env
      dsimp only
      split
      next t eq =>
        rw [eq] at opened
        exact opened.close rely env.close
      next t eq =>
        rw [eq] at opened attached
        split
        next => exact (opened.setRead fun _ _ => attached rfl).setSocketState rely _
        next => exact opened.setSocketState rely _

theorem exec (h : Anchored known s) (rely : ∀ sig s, KeepsLive s (slot sig s)) {c : Call} (orderly : c.Orderly s)
    (resumes : ∀ sig t, c.Resumes sig (slot sig t)) : Anchored known (s.exec slot c) := by
  cases c with
  | connectToInterface interfaceName mode env => exact h.connectToInterface rely interfaceName mode env
  | close answer => exact h.close rely answer
  | write data => exact h.writeDevice data orderly
  | read maxSize => exact h.readDevice maxSize orderly
  | flush env => exact h.send rely orderly fun n => resumes (.bytesWritten n)
  | setReadBufferSize size => exact h.setReadBufferSize size
  | setSocketOption option answer => exact h.setSocketOption rely option answer
  | readNotification answers => exact h.readNotification rely orderly answers
  | writeNotification env =>
    unfold Socket.exec
    dsimp only
    split
    next enabled => exact h.send rely (orderly enabled) fun n => resumes (.bytesWritten n)
    next => exact h
  | waitForReadyRead msecs rounds =>
    unfold Socket.exec Socket.waitForReadyRead
    dsimp only
    split
    next => exact h
    next up => exact readyReadLoop rely (fun n => resumes (.bytesWritten n)) (fun _ => id) h (orderly up)
  | waitForBytesWritten msecs rounds =>
    unfold Socket.exec Socket.waitForBytesWritten
    dsimp only
    split
    next => exact h
    next up =>
      split
      next => exact h
      next waiting =>
        exact bytesWrittenLoop rely (resumes .readyRead) (fun n => resumes (.bytesWritten n)) (fun _ => id) h
          (orderly up waiting)

end Anchored

/-- A state in which every call can resume. -/
theorem resumes_somewhere (c : Call) (sig : Signal) (s : Socket) : ∃ t, KeepsLive s t ∧ c.Resumes sig t := by
  have opened : Anchored True (({ Socket.create (.raw {}) with descriptor := (0 : Nat) } : Socket).log (.opened 0)) :=
    (Anchored.create (.raw {}) : Anchored True _).opened 0
  have attached := opened.field trivial (by decide)
  refine ⟨_, fun _ _ => opened.unknown, ?_⟩
  unfold Call.Resumes
  split
  · exact Or.inl attached
  · exact Or.inl attached
  · exact Or.inl attached
  · exact Or.inl attached
  · exact attached
  · trivial

/-- The state the slots of `bytesWritten` find. -/
def Socket.tellingWritten (s : Socket) : Socket :=
  ({ s with emittedBytesWritten := true }).log (.signal (.bytesWritten s.pendingBytesWritten))

/-- A flush runs the slots of the `bytesWritten` it begins with, and no others where sending does not come to any. -/
theorem flush_runsAt {slot : Slot} {env : WriteEnv} {s : Socket} (reports : s.PendingReport)
    (sends : ∀ other : Slot,
      (Socket.startAsyncWrite other env { slot (.bytesWritten s.pendingBytesWritten) s.tellingWritten with
        pendingBytesWritten := 0, emittedBytesWritten := false, writeSequenceStarted := false }).2 =
      (Socket.startAsyncWrite slot env { slot (.bytesWritten s.pendingBytesWritten) s.tellingWritten with
        pendingBytesWritten := 0, emittedBytesWritten := false, writeSequenceStarted := false }).2) :
    CallRun.RunsAt (fun slot call s => s.exec slot call) slot (.flush env) s
      fun sig t => sig = .bytesWritten s.pendingBytesWritten ∧ t = s.tellingWritten := by
  intro other same
  have emits : 0 < s.pendingBytesWritten ∧ (!s.emittedBytesWritten) = true := ⟨reports.1, by simp [reports.2]⟩
  have goes : ∀ o : Slot, s.emitBytesWritten o = { o (.bytesWritten s.pendingBytesWritten) s.tellingWritten with
      pendingBytesWritten := 0, emittedBytesWritten := false } := fun o => if_pos emits
  dsimp only [Socket.exec]
  unfold Socket.completeAsyncWrite
  rw [goes, goes, same _ _ ⟨rfl, rfl⟩]
  dsimp only
  split
  next => rfl
  next => exact sends other

/-- The slots of `bytesWritten` write another frame, which the flush they interrupt sends. -/
def flushAnswered : Script :=
  .call (.connectToInterface "can0" .readWrite (.granting 3)) (fun _ _ => .done) <|
  .call (.write (twoFrames.take 16)) (fun _ _ => .done) <|
  .call (.flush ⟨16, [.all]⟩) (fun _ _ => .done) <|
  .call (.flush ⟨16, [.all]⟩) (fun _ _ => .ofList [.write (twoFrames.drop 16)]) <|
  .call (.close none) (fun _ _ => .done) .done

theorem flushAnswered_orderly : flushAnswered.Orderly (.create (.raw {})) := by
  refine ⟨trivial, ⟨_, CallRun.runsAt_all _ _ _ _, fun _ _ _ => ⟨trivial, trivial⟩⟩, ?_⟩
  refine ⟨fun _ _ _ => by decide, ⟨fun _ _ => False, fun _ _ => rfl, fun _ _ => False.elim⟩, ?_⟩
  refine ⟨fun _ => Or.inl (by decide), ⟨fun _ _ => False, fun _ _ => rfl, fun _ _ => False.elim⟩, ?_⟩
  refine ⟨fun _ => Or.inl (by decide), ⟨_, flush_runsAt ⟨by decide, by decide⟩ fun _ => rfl, ?_⟩, ?_⟩
  · rintro _ _ ⟨rfl, rfl⟩
    refine ⟨⟨fun _ _ _ => by decide, ⟨fun _ _ => False, fun _ _ => rfl, fun _ _ => False.elim⟩, trivial⟩, ?_⟩
    exact Or.inl (by decide)
  · exact ⟨trivial, ⟨_, CallRun.runsAt_all _ _ _ _, fun _ _ _ => ⟨trivial, trivial⟩⟩, trivial⟩

/-- A raw socket is closed with a frame still to send, and flushed. -/
def flushedAfterClose : Script :=
  .ofList [.connectToInterface "can0" .readWrite (.granting 3), .write (twoFrames.take 16), .close none,
    .flush ⟨16, [.all]⟩]

end CanSocket
