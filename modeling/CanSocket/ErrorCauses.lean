import CanSocket.Connection
import CanSocket.KernelFailures
import CanSocket.LiveDescriptors
import CanSocket.ReadLimits

namespace CanSocket

open History

/-- The errno behind a stretch of the trace: a failing call sets it, and nothing clears it. -/
def lastErrno (start : Errno) (events : List Event) : Errno :=
  events.foldl (fun errno e => e.failure.getD errno) start

def resourceErrnos : List Errno := [.ENOBUFS, .ENOMEM, .EMFILE, .ENFILE]

/-- The error a transfer is to fail with, by the event it begins with. -/
def Event.transferKind : Event → Option SocketError
  | .readFromSocket .. => some .readError
  | .writeToSocket .. => some .writeError
  | _ => none

def Event.isCall : Event → Bool
  | .read .. => true
  | .write .. => true
  | _ => false

/-- The transfer that begins with this event fails although each kernel call it makes succeeds. -/
def Event.failsUnaided (fd : FlexibleDataRateFrames) : Event → Bool
  | .readFromSocket room answers =>
    (rawReadFromSocket fd room answers).ret < 0 && (rawReadFromSocket fd room answers).errno = none
  | .writeToSocket _ block answers =>
    (rawWriteToSocket fd block answers).ret < 0 && (rawWriteToSocket fd block answers).errno = none
  | _ => false

/-- An error told behind the kernel calls of a transfer is a resource error exactly if one of
these calls failed with the errno of one. -/
def OwnCause (before : List Event) (e : Event) : Prop :=
  ∀ code earlier opening calls kind, e = .signal (.error code) → before = earlier ++ opening :: calls →
    opening.transferKind = some kind → (∀ call ∈ calls, call.isCall = true) →
      code = if ∃ errno ∈ failures calls, errno ∈ resourceErrnos then .socketResourceError else kind

/-- A transfer that fails unaided finds no errno of a resource error. -/
def FreshErrno (fd : FlexibleDataRateFrames) (start : Errno) (before : List Event) (e : Event) : Prop :=
  e.failsUnaided fd = true → lastErrno start before ∉ resourceErrnos

@[simp] theorem lastErrno_append (start : Errno) (before after : List Event) :
    lastErrno start (before ++ after) = lastErrno (lastErrno start before) after := by
  simp [lastErrno]

theorem lastErrno_eq (start : Errno) (events : List Event) :
    lastErrno start events = (failures events).getLast?.getD start := by
  induction events using List.reverseRecOn with
  | nil => rfl
  | append_singleton events last ih =>
    rw [lastErrno_append, ih, failures_append]
    cases failed : last.failure <;> simp [lastErrno, failures, failed]

theorem lastErrno_of_failures {start : Errno} {events : List Event} {errno : Option Errno}
    (last : failures events = errno.toList) : lastErrno start events = errno.getD start := by
  rw [lastErrno_eq, last]
  cases errno <;> rfl

theorem resource_iff (e : Errno) : (getSystemError e).errorCode = .socketResourceError ↔ e ∈ resourceErrnos := by
  cases e <;> simp [getSystemError, resourceErrnos]

theorem transferError_code (kind : SocketError) (e : Errno) :
    (transferError kind e).errorCode = if e ∈ resourceErrnos then .socketResourceError else kind := by
  have code := resource_iff e
  unfold transferError
  by_cases resource : e ∈ resourceErrnos
  · rw [if_neg (not_not.mpr (code.mpr resource)), if_pos resource]
    exact code.mpr resource
  · rw [if_pos fun same => resource (code.mp same), if_neg resource]

/-- A failed transfer in the trace: the event it begins with, the kind of its error, its calls
and the errno they leave. -/
inductive FailedTransfer (fd : FlexibleDataRateFrames) : Event → SocketError → List Event → Option Errno → Prop
  | read (descriptor room : Int) (answers : List ReadAnswer) : (rawReadFromSocket fd room answers).ret < 0 →
      FailedTransfer fd (.readFromSocket room answers) .readError
        ((rawReadFromSocket fd room answers).calls.map (Event.read descriptor room))
        (rawReadFromSocket fd room answers).errno
  | write (descriptor : Int) (emitting : Bool) (block : List UInt8) (answers : List WriteAnswer) :
      (rawWriteToSocket fd block answers).ret < 0 →
      FailedTransfer fd (.writeToSocket emitting block answers) .writeError
        ((rawWriteToSocket fd block answers).calls.map (Event.write descriptor))
        (rawWriteToSocket fd block answers).errno

namespace FailedTransfer

variable {fd : FlexibleDataRateFrames} {opening : Event} {kind : SocketError} {calls : List Event} {errno : Option Errno}

theorem opens (h : FailedTransfer fd opening kind calls errno) : opening.transferKind = some kind := by
  cases h <;> rfl

theorem calling (h : FailedTransfer fd opening kind calls errno) : ∀ call ∈ calls, call.isCall = true := by
  cases h <;> simp [Event.isCall]

theorem failures_eq (h : FailedTransfer fd opening kind calls errno) : failures calls = errno.toList := by
  cases h with
  | read _ room answers _ => exact (failures_read _ _ _).trans (readLoop_endsAtFailure fd room answers []).last
  | write _ _ block answers _ => exact (failures_write _ _).trans (writeLoop_endsAtFailure fd block answers 0).last

theorem unaided (h : FailedTransfer fd opening kind calls errno) (none : errno = none) :
    opening.failsUnaided fd = true := by
  cases h with
  | read _ _ _ failed => simp [Event.failsUnaided, failed, none]
  | write _ _ _ _ failed => simp [Event.failsUnaided, failed, none]

end FailedTransfer

theorem not_isCall_of_opens {e : Event} {kind : SocketError} (opens : e.transferKind = some kind) :
    e.isCall = false := by
  cases e <;> first | rfl | cases opens

/-- Where an error comes from: a failed transfer, classified by the errno there is behind it, or
something that is no part of a transfer. -/
def Explained (fd : FlexibleDataRateFrames) (start : Errno) (before : List Event) (e : Event) : Prop :=
  ∀ code, e = .signal (.error code) →
    (∃ earlier opening kind calls errno, before = earlier ++ opening :: calls ∧
      FailedTransfer fd opening kind calls errno ∧
      code = (transferError kind (errno.getD (lastErrno start earlier))).errorCode) ∨
    ∃ earlier last, before = earlier ++ [last] ∧ last.transferKind = none ∧ last.isCall = false

/-- An explained error has its own cause if its transfer found no stale errno. -/
theorem Explained.ownCause {fd : FlexibleDataRateFrames} {start : Errno} {before : List Event} {e : Event}
    (h : Explained fd start before e)
    (fresh : ∀ earlier opening rest, before = earlier ++ opening :: rest → FreshErrno fd start earlier opening) :
    OwnCause before e := by
  intro code earlier opening calls kind told eq opens calling
  rcases h code told with ⟨earlier', opening', kind', calls', errno, eq', failed, same⟩ |
    ⟨earlier', last, eq', other⟩
  · obtain ⟨rfl, rfl, rfl⟩ := split_unique (eq.symm.trans eq') calling failed.calling (not_isCall_of_opens opens)
      (not_isCall_of_opens failed.opens)
    obtain rfl : kind' = kind := Option.some.inj (failed.opens.symm.trans opens)
    rw [same, transferError_code, failed.failures_eq]
    cases errno with
    | some errno => simp
    | none =>
      have clean := fresh earlier opening calls eq (failed.unaided rfl)
      simp [clean]
  · rw [eq'] at eq
    rcases List.eq_nil_or_concat calls with rfl | ⟨init, call, rfl⟩
    · obtain ⟨_, same⟩ := List.append_inj' eq rfl
      obtain rfl : last = opening := (List.cons.inj same).1
      rw [opens] at other
      cases other.1
    · rw [List.concat_eq_append, ← List.cons_append, ← List.append_assoc] at eq
      obtain ⟨_, same⟩ := List.append_inj' eq rfl
      obtain rfl : last = call := (List.cons.inj same).1
      have called := calling last (by simp)
      rw [other.2] at called
      cases called

/-- The socket keeps the errno its trace tells of, and every error in the trace is explained. -/
structure ErrnoTraced (options : CanRawOptions) (base : List Event) (start : Errno) (s : Socket) : Prop where
  protocol : s.protocol = .raw options
  account : ∃ events, s.trace = base ++ events ∧ s.errno = lastErrno start events ∧
    EachAfter (Explained options.flexibleDataRateFrames start) events

def Event.isError : Event → Bool
  | .signal (.error _) => true
  | _ => false

theorem explained_of_quiet {e : Event} (quiet : e.isError = false) (fd : FlexibleDataRateFrames) (start : Errno)
    (before : List Event) : Explained fd start before e := by
  rintro code rfl
  cases quiet

namespace ErrnoTraced

variable {options : CanRawOptions} {base : List Event} {start : Errno} {s t : Socket} {slot : Slot}

theorem refl (protocol : s.protocol = .raw options) : ErrnoTraced options s.trace s.errno s :=
  ⟨protocol, [], by simp, rfl, eachAfter_nil⟩

/-- Events have been logged, no error among them. -/
theorem logged (h : ErrnoTraced options base start s) (events : List Event) (protocol : t.protocol = s.protocol)
    (trace : t.trace = s.trace ++ events) (errno : t.errno = lastErrno s.errno events)
    (quiet : ∀ e ∈ events, e.isError = false) : ErrnoTraced options base start t := by
  obtain ⟨sofar, eq, kept, explained⟩ := h.account
  refine ⟨protocol.trans h.protocol, sofar ++ events, ?_, ?_, ?_⟩
  · rw [trace, eq, List.append_assoc]
  · rw [errno, kept, lastErrno_append]
  · exact explained.append_all fun e mem => explained_of_quiet (quiet e mem) _ _

theorem same (h : ErrnoTraced options base start s)
    (same : (t.protocol, t.errno, t.trace) = (s.protocol, s.errno, s.trace)) : ErrnoTraced options base start t := by
  obtain ⟨protocol, errno, trace⟩ : t.protocol = s.protocol ∧ t.errno = s.errno ∧ t.trace = s.trace := by
    simpa using same
  exact h.logged [] protocol (by simp [trace]) errno nofun

/-- An error has been told that the events directly before it explain. -/
theorem tells (h : ErrnoTraced options base start s) (events : List Event) (code : SocketError)
    (protocol : t.protocol = s.protocol) (trace : t.trace = s.trace ++ events ++ [.signal (.error code)])
    (errno : t.errno = lastErrno s.errno events) (quiet : ∀ e ∈ events, e.isError = false)
    (why : ∀ sofar, lastErrno start sofar = s.errno →
      Explained options.flexibleDataRateFrames start (sofar ++ events) (.signal (.error code))) :
    ErrnoTraced options base start t := by
  obtain ⟨sofar, eq, kept, explained⟩ := h.account
  refine ⟨protocol.trans h.protocol, sofar ++ events ++ [.signal (.error code)], ?_, ?_, ?_⟩
  · rw [trace, eq, List.append_assoc, List.append_assoc, List.append_assoc]
  · rw [errno, kept, lastErrno_append, lastErrno_append]
    rfl
  · rw [eachAfter_concat]
    exact ⟨explained.append_all fun e mem => explained_of_quiet (quiet e mem) _ _, why sofar kept.symm⟩

theorem emit (h : ErrnoTraced options base start s) (rely : slot.Keeps (ErrnoTraced options base start)) (sig : Signal)
    (quiet : (Event.signal sig).isError = false) : ErrnoTraced options base start (s.emit slot sig) :=
  rely sig _ (h.logged [.signal sig] rfl rfl rfl (by simpa using quiet))

theorem setRead (h : ErrnoTraced options base start s) (enable : Bool) :
    ErrnoTraced options base start (s.setReadNotificationEnabled enable) := by
  obtain ⟨made, eq⟩ := s.setRead_eq enable
  rw [eq]
  exact h.same rfl

theorem setWrite (h : ErrnoTraced options base start s) (enable : Bool) :
    ErrnoTraced options base start (s.setWriteNotificationEnabled enable) := by
  obtain ⟨made, eq⟩ := s.setWrite_eq enable
  rw [eq]
  exact h.same rfl

theorem waitForReadOrWrite (h : ErrnoTraced options base start s)
    (rely : slot.Keeps (ErrnoTraced options base start)) (checkRead checkWrite : Bool) (msecs : Int32)
    (answer : SelectAnswer) :
    ErrnoTraced options base start (s.waitForReadOrWrite slot checkRead checkWrite msecs answer).2 := by
  have waited : ∀ t : Socket, ∀ code, t.protocol = s.protocol →
      t.trace = s.trace ++ [.select s.descriptor checkRead checkWrite msecs answer] ++ [.signal (.error code)] →
      t.errno = lastErrno s.errno [.select s.descriptor checkRead checkWrite msecs answer] →
      ErrnoTraced options base start t := by
    intro t code protocol trace errno
    refine h.tells [.select s.descriptor checkRead checkWrite msecs answer] code protocol trace errno ?_ ?_
    · simp [Event.isError]
    · exact fun sofar _ _ _ => Or.inr ⟨sofar, _, rfl, rfl, rfl⟩
  unfold Socket.waitForReadOrWrite
  cases answer with
  | fail e => exact rely _ _ (waited _ (getSystemError e).errorCode rfl rfl rfl)
  | timeout => exact rely _ _ (waited _ (errorInfo .socketTimeoutError).errorCode rfl rfl rfl)
  | ready read write =>
    exact h.logged [.select s.descriptor checkRead checkWrite msecs (.ready read write)] rfl rfl rfl
      (by simp [Event.isError])

theorem writeDevice (h : ErrnoTraced options base start s) (data : List UInt8) :
    ErrnoTraced options base start (s.writeDevice data) := by
  have queued : ErrnoTraced options base start
      (({ s with writeBuffer := s.writeBuffer ++ data }).log (.queued data)) :=
    h.logged [.queued data] rfl rfl rfl (by simp [Event.isError])
  unfold Socket.writeDevice Socket.writeData
  dsimp only
  split
  next => exact h
  next =>
    split
    next => exact queued.setWrite true
    next => exact queued

theorem readDevice (h : ErrnoTraced options base start s) (maxSize : Nat) :
    ErrnoTraced options base start (s.readDevice maxSize) := by
  have taken : ErrnoTraced options base start
      (({ s with buffer := s.buffer.drop maxSize }).log (.userRead (s.buffer.take maxSize))) :=
    h.logged [.userRead (s.buffer.take maxSize)] rfl rfl rfl (by simp [Event.isError])
  unfold Socket.readDevice Socket.readData
  dsimp only
  split
  next => exact h
  next =>
    split
    next =>
      split
      next => exact taken.setRead true
      next => exact taken
    next => exact taken

theorem setReadBufferSize (h : ErrnoTraced options base start s) (size : Int) :
    ErrnoTraced options base start (s.setReadBufferSize size) := by
  unfold Socket.setReadBufferSize
  split
  next => exact h
  next => exact h.same rfl

theorem fillSpace_errno (h : ErrnoTraced options base start s) (answers : List ReadAnswer) (bytesToRead : Int) :
    (s.fillSpace answers bytesToRead).errno = lastErrno s.errno
      (.readFromSocket bytesToRead (s.readAnswers answers) ::
        (s.protocol.readFromSocket bytesToRead (s.readAnswers answers)).calls.map
          (Event.read s.descriptor bytesToRead)) := by
  have ends := readLoop_endsAtFailure options.flexibleDataRateFrames bytesToRead (s.readAnswers answers) []
  refine (lastErrno_of_failures ?_).symm
  rw [h.protocol]
  exact (failures_read _ _ _).trans ends.last

theorem fillSpace (h : ErrnoTraced options base start s) (answers : List ReadAnswer) (bytesToRead : Int) :
    ErrnoTraced options base start (s.fillSpace answers bytesToRead) :=
  h.logged _ rfl rfl (h.fillSpace_errno answers bytesToRead) (by simp [Event.isError])

theorem readFailing (h : ErrnoTraced options base start s) {answers : List ReadAnswer} {bytesToRead : Int}
    (failed : (s.protocol.readFromSocket bytesToRead (s.readAnswers answers)).ret < 0) :
    ErrnoTraced options base start (s.fillSpace answers bytesToRead).readFailing := by
  refine h.tells _ (transferError .readError (s.fillSpace answers bytesToRead).errno).errorCode rfl rfl
    (h.fillSpace_errno answers bytesToRead) (by simp [Event.isError]) ?_
  intro sofar kept code told
  cases told
  rw [h.protocol] at failed ⊢
  refine Or.inl ⟨sofar, _, _, _, _, rfl, .read s.descriptor bytesToRead (s.readAnswers answers) failed, ?_⟩
  rw [kept, Socket.fillSpace, h.protocol]
  rfl

theorem emitReadyRead (h : ErrnoTraced options base start s) (rely : slot.Keeps (ErrnoTraced options base start))
    (newBytes : Int) : ErrnoTraced options base start (s.emitReadyRead slot newBytes) := by
  unfold Socket.emitReadyRead
  split
  next =>
    have marked : ErrnoTraced options base start { s with emittedReadyRead := true } := h.same rfl
    exact (marked.emit rely .readyRead rfl).same rfl
  next => exact h

theorem disableIfFull (h : ErrnoTraced options base start s) : ErrnoTraced options base start s.disableIfFull := by
  unfold Socket.disableIfFull
  split
  next => exact h.setRead false
  next => exact h

theorem receive (h : ErrnoTraced options base start s) (rely : slot.Keeps (ErrnoTraced options base start))
    (answers : List ReadAnswer) (bytesToRead : Int) :
    ErrnoTraced options base start (s.receive slot answers bytesToRead).2 := by
  have filled := h.fillSpace answers bytesToRead
  unfold Socket.receive
  dsimp only
  split
  next failed =>
    rw [Socket.failReceive_tells]
    exact (rely _ _ (h.readFailing failed)).same rfl
  next =>
    split
    next => exact (filled.setRead false).disableIfFull.emitReadyRead rely _
    next =>
      have chopped : ErrnoTraced options base start { s.fillSpace answers bytesToRead with
          buffer := Socket.chop (bytesToRead - (s.protocol.readFromSocket bytesToRead (s.readAnswers answers)).ret)
            (s.fillSpace answers bytesToRead).buffer } := filled.same rfl
      exact chopped.disableIfFull.emitReadyRead rely _

theorem readNotification (h : ErrnoTraced options base start s) (rely : slot.Keeps (ErrnoTraced options base start))
    (answers : List ReadAnswer) : ErrnoTraced options base start (s.readNotification slot answers).2 := by
  rcases s.readNotification_cases slot answers with ⟨_, eq⟩ | ⟨_, eq⟩
  · rw [eq]
    exact h.setRead false
  · rw [eq]
    exact h.receive rely answers _

theorem sendBlock_errno (h : ErrnoTraced options base start s) (env : WriteEnv) :
    (s.sendBlock env).errno = lastErrno s.errno (s.writeEvents env) := by
  have ends := writeLoop_endsAtFailure options.flexibleDataRateFrames (s.nextDataBlock env)
    (s.writeAnswers env.answers) 0
  refine (lastErrno_of_failures ?_).symm
  rw [failures_writeEvents, s.writeResult_raw h.protocol]
  exact ends.last

/-- The state in which a failed write tells its error. -/
theorem writeFailing (h : ErrnoTraced options base start s) {env : WriteEnv} (failed : (s.writeResult env).ret < 0) :
    ErrnoTraced options base start (((s.sendBlock env).withError (transferError .writeError (s.sendBlock env).errno)).log
      (.signal (.error (transferError .writeError (s.sendBlock env).errno).errorCode))) := by
  refine h.tells (s.writeEvents env) (transferError .writeError (s.sendBlock env).errno).errorCode rfl rfl
    (h.sendBlock_errno env) (by simp [Socket.writeEvents, Event.isError]) ?_
  intro sofar kept code told
  cases told
  have errno : (s.sendBlock env).errno = (s.writeResult env).errno.getD s.errno := rfl
  have result := Socket.writeResult_raw h.protocol env
  rw [result] at failed
  rw [errno, Socket.writeEvents, result]
  exact Or.inl ⟨sofar, _, _, _, _, rfl, .write s.descriptor s.emittedBytesWritten (s.nextDataBlock env)
    (s.writeAnswers env.answers) failed, by rw [kept]⟩

theorem startAsyncWrite (h : ErrnoTraced options base start s) (rely : slot.Keeps (ErrnoTraced options base start))
    (env : WriteEnv) : ErrnoTraced options base start (s.startAsyncWrite slot env).2 := by
  by_cases going : s.writeBuffer = [] ∨ s.writeSequenceStarted = true
  · rw [Socket.startAsyncWrite, if_pos going]
    exact h
  · by_cases failed : (s.writeResult env).ret < 0
    · rw [startAsyncWrite_failed slot going failed]
      exact rely _ _ (h.writeFailing failed)
    · have sent : ErrnoTraced options base start (s.sendBlock env) :=
        h.logged (s.writeEvents env) rfl rfl (h.sendBlock_errno env) (by simp [Socket.writeEvents, Event.isError])
      have freed : ErrnoTraced options base start ((s.sendBlock env).freeWritten (s.writeResult env).ret) :=
        sent.logged [.freed (s.writeResult env).ret] rfl rfl rfl (by simp [Event.isError])
      unfold Socket.startAsyncWrite
      rw [if_neg going]
      dsimp only
      rw [if_neg failed]
      split
      next => exact freed.setWrite true
      next => exact freed

theorem emitBytesWritten (h : ErrnoTraced options base start s) (rely : slot.Keeps (ErrnoTraced options base start)) :
    ErrnoTraced options base start (s.emitBytesWritten slot) := by
  unfold Socket.emitBytesWritten
  split
  next =>
    have marked : ErrnoTraced options base start { s with emittedBytesWritten := true } := h.same rfl
    exact (marked.emit rely (.bytesWritten s.pendingBytesWritten) rfl).same rfl
  next => exact h

theorem completeAsyncWrite (h : ErrnoTraced options base start s)
    (rely : slot.Keeps (ErrnoTraced options base start)) (env : WriteEnv) :
    ErrnoTraced options base start (s.completeAsyncWrite slot env).2 := by
  have resumed : ErrnoTraced options base start { s.emitBytesWritten slot with writeSequenceStarted := false } :=
    (h.emitBytesWritten rely).same rfl
  unfold Socket.completeAsyncWrite
  dsimp only
  split
  next => exact resumed.setWrite false
  next => exact resumed.startAsyncWrite rely env

theorem partsKeep (rely : slot.Keeps (ErrnoTraced options base start)) :
    PartsKeep slot (fun _ => True) fun s t => ErrnoTraced options base start s → ErrnoTraced options base start t where
  refl _ h := h
  trans first second h := second (first h)
  select _ _ _ answer _ h := h.waitForReadOrWrite rely _ _ _ answer
  write data _ h := h.writeDevice data
  read maxSize _ h := h.readDevice maxSize
  limit size _ h := h.setReadBufferSize size
  receive answers _ _ h := h.readNotification rely answers
  send env _ h := h.completeAsyncWrite rely env

theorem script {script : Script} (on : script.All Call.OnConnection fun _ => False)
    (h : ErrnoTraced options base start s) : ErrnoTraced options base start (script.exec s) :=
  CallRun.Script.run_rel (R := fun s t => ErrnoTraced options base start s → ErrnoTraced options base start t)
    (fun _ h => h) (fun first second h => second (first h))
    (fun _ slots _ _ on s => (partsKeep fun sig t => slots sig t).exec on (fun _ _ => trivial) s) on s h

end ErrnoTraced

/-- A failed read tells its error in the state `u`, in which its notifier is switched off exactly
if the error is a resource error. -/
structure TellsReadError (slot : Slot) (answers : List ReadAnswer) (t : Socket) (code : SocketError) (u : Socket) :
    Prop where
  trace : u.trace = t.trace ++ t.readEvents answers ++ [.signal (.error code)]
  notifier : u.readNotifier =
    if code = .socketResourceError then t.readNotifier.map Notifier.off else t.readNotifier
  result : (t.readNotification slot answers).2 =
    { slot (.error code) u with buffer := Socket.chop t.roomToRead (slot (.error code) u).buffer }

theorem readNotification_receive (slot : Slot) (answers : List ReadAnswer) {s : Socket} (room : s.roomToRead ≠ 0) :
    s.readNotification slot answers = s.receive slot answers s.roomToRead := by
  unfold Socket.roomToRead at room ⊢
  unfold Socket.readNotification
  dsimp only
  split
  next limited =>
    rw [if_pos limited] at room
    rw [if_neg room]
  next => rfl

theorem tellsReadError (slot : Slot) (answers : List ReadAnswer) {t : Socket} (room : t.roomToRead ≠ 0)
    (failed : (t.readResult answers).ret < 0) : ∃ code u, TellsReadError slot answers t code u := by
  refine ⟨_, (t.fillSpace answers t.roomToRead).readFailing, rfl, rfl, ?_⟩
  rw [readNotification_receive slot answers room, Socket.receive]
  exact (congrArg Prod.snd (if_pos failed)).trans (Socket.failReceive_tells slot _ _)

/-- In every run on a raw connection, its slots calling back to any depth, in which no transfer that
fails unaided finds the errno of a resource error, each error of a transfer has its own cause. The
errno is the one the run left, and the read notifier goes with the error told. -/
theorem error_causes {options : CanRawOptions} {script : Script} {s : Socket} (raw : s.protocol = .raw options)
    (on : script.All Call.OnConnection fun _ => False)
    (fresh : EachAfter (FreshErrno options.flexibleDataRateFrames s.errno) (s.added (script.exec s))) :
    EachAfter OwnCause (s.added (script.exec s)) ∧
      (script.exec s).errno = lastErrno s.errno (s.added (script.exec s)) ∧
      ∀ slot answers t, t.roomToRead ≠ 0 → (t.readResult answers).ret < 0 →
        ∃ code u, TellsReadError slot answers t code u := by
  obtain ⟨events, trace, errno, explained⟩ := ((ErrnoTraced.refl raw).script on).account
  rw [Socket.added_of_append trace] at fresh ⊢
  refine ⟨?_, errno, fun slot answers t => tellsReadError slot answers⟩
  intro before e after eq
  refine (explained before e after eq).ownCause fun earlier opening rest split => ?_
  exact fresh earlier opening (rest ++ e :: after) (by rw [eq, split]; simp)

instance (fd : FlexibleDataRateFrames) (start : Errno) (before : List Event) (e : Event) :
    Decidable (FreshErrno fd start before e) := inferInstanceAs (Decidable (_ → _))

/-- After this answer to a `::read` a frame with no reserved bytes set is sent. -/
def untaggedAfter (answer : ReadAnswer) : Script :=
  .ofList [.readNotification [answer], .write (List.replicate 16 0), .flush ⟨16, [.all]⟩]

set_option maxRecDepth 8000 in
theorem error_causes_eagain :
    EachAfter OwnCause ((Socket.connected (.raw {}) 3).added
        ((untaggedAfter (.fail .EAGAIN)).exec (.connected (.raw {}) 3))) ∧
      ((untaggedAfter (.fail .EAGAIN)).exec (.connected (.raw {}) 3)).errno =
        lastErrno (Socket.connected (.raw {}) 3).errno
          ((Socket.connected (.raw {}) 3).added ((untaggedAfter (.fail .EAGAIN)).exec (.connected (.raw {}) 3))) ∧
      ∀ slot answers t, t.roomToRead ≠ 0 → (t.readResult answers).ret < 0 →
        ∃ code u, TellsReadError slot answers t code u := by
  refine @error_causes {} _ _ rfl (CallRun.Script.all_ofList (by simp [Call.OnConnection])) ?_
  have events : (Socket.connected (.raw {}) 3).added
      ((untaggedAfter (.fail .EAGAIN)).exec (.connected (.raw {}) 3)) =
      [] ++ [.readFromSocket 1152 [.fail .EAGAIN]] ++ [.read 3 1152 ⟨0, 16, .fail .EAGAIN⟩] ++
        [.queued (List.replicate 16 0)] ++ [.writeToSocket false (List.replicate 16 0) [.all]] ++
        [.signal (.error .writeError)] := by decide
  rw [events]
  simp only [eachAfter_concat, eachAfter_nil]
  decide

set_option maxRecDepth 8000 in
/-- A frame meets a full queue, which is tolerated, and is sent later in front of one with no
reserved bytes set: what is wrong with that one is told as a resource error. -/
theorem error_causes_fails :
    let script : Script := .ofList [.write (twoFrames.take 16), .flush ⟨16, [.fail .ENOBUFS]⟩,
      .write (List.replicate 16 0), .flush ⟨32, [.all]⟩]
    let events := (Socket.connected (.raw {}) 3).added (script.exec (.connected (.raw {}) 3))
    (∃ before, events = before ++ .writeToSocket false (twoFrames.take 16 ++ List.replicate 16 0) [.all] ::
        [.write 3 ⟨0, twoFrames.take 16, .all⟩, .signal (.error .socketResourceError)]) ∧
      ¬EachAfter OwnCause events := by
  intro script events
  have last : events = events.take 5 ++ .writeToSocket false (twoFrames.take 16 ++ List.replicate 16 0) [.all] ::
      [.write 3 ⟨0, twoFrames.take 16, .all⟩, .signal (.error .socketResourceError)] := by decide
  refine ⟨⟨_, last⟩, fun own => ?_⟩
  have told := own (events.take 5 ++ .writeToSocket false (twoFrames.take 16 ++ List.replicate 16 0) [.all] ::
    [.write 3 ⟨0, twoFrames.take 16, .all⟩]) (.signal (.error .socketResourceError)) [] (by rw [last]; rfl)
  have code := told _ _ _ _ .writeError rfl rfl rfl (by simp [Event.isCall])
  simp [failures, Event.failure, WriteAnswer.failure] at code

end CanSocket
