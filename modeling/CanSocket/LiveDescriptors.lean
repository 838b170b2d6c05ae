import CanSocket.History
import CanSocket.PublicCalls
import CanSocket.ReadWakeup

namespace CanSocket

open History

/-- The descriptor a kernel call moves bytes on, or waits on to move some. -/
def Event.uses : Event → Option Int
  | .read descriptor _ _ => some descriptor
  | .write descriptor _ => some descriptor
  | .select descriptor .. => some descriptor
  | _ => none

def liveAfter (descriptors : List Int) : Event → List Int
  | .opened d => (d : Int) :: descriptors
  | .closed d => descriptors.filter (· ≠ d)
  | _ => descriptors

/-- The descriptors `::socket` gave to the object and it has not handed to `::close` since. -/
def liveDescriptors (trace : List Event) : List Int := trace.foldl liveAfter []

def UsesLive (before : List Event) (e : Event) : Prop := ∀ d, e.uses = some d → d ∈ liveDescriptors before

def Event.keepsLive : Event → Bool
  | .opened _ => false
  | .closed _ => false
  | _ => true

/-- The descriptor field holds a live descriptor. -/
def Socket.Attached (s : Socket) : Prop := s.descriptor ∈ liveDescriptors s.trace

instance (s : Socket) : Decidable s.Attached := inferInstanceAs (Decidable (s.descriptor ∈ liveDescriptors s.trace))

/-- Every transfer and every wait so far used a live descriptor, every notifier was made on one, and those there are
have theirs still live. -/
structure OnLiveDescriptors (s : Socket) : Prop where
  transfers : EachAfter UsesLive s.trace
  watching : ∀ made ∈ s.watched, made.1 ≤ s.trace.length ∧ made.2 ∈ liveDescriptors (s.trace.take made.1)
  reading : ∀ n, s.readNotifier = some n → n.descriptor ∈ liveDescriptors s.trace
  writing : ∀ n, s.writeNotifier = some n → n.descriptor ∈ liveDescriptors s.trace

/-- With what the code goes by: a descriptor field other than -1 is live. That is `known` but while a failing
`::close` tells its error. -/
structure Anchored (known : Prop) (s : Socket) : Prop extends OnLiveDescriptors s where
  field : known → s.descriptor ≠ -1 → s.Attached

def KeepsLive (s t : Socket) : Prop := ∀ known, Anchored known s → Anchored known t

namespace Socket

/-- What a read notification comes to without a `::read`. -/
def ReadsNothing (s : Socket) : Prop :=
  s.roomToRead = 0 ∨ ∃ options, s.protocol = .raw options ∧ s.roomToRead < frameSize options.flexibleDataRateFrames

/-- What sending comes to without a `::write` and without a new notifier: nothing is queued, or the first frame of the
block has no tags the mode allows, or the block is shorter than a frame and there is a notifier. -/
def SendsNothing (env : WriteEnv) (s : Socket) : Prop :=
  s.writeBuffer = [] ∨ ∃ options, s.protocol = .raw options ∧
    if ((s.nextDataBlock env).length : Int) < frameSize options.flexibleDataRateFrames then s.writeNotifier ≠ none
    else sizeAt options.flexibleDataRateFrames (s.nextDataBlock env) 0 = none

/-- `completeAsyncWrite` emits `bytesWritten` first. -/
def PendingReport (s : Socket) : Prop := 0 < s.pendingBytesWritten ∧ s.emittedBytesWritten = false

end Socket

theorem live_concat (trace : List Event) (e : Event) :
    liveDescriptors (trace ++ [e]) = liveAfter (liveDescriptors trace) e := by
  simp [liveDescriptors]

theorem live_append {events : List Event} (keeps : ∀ e ∈ events, e.keepsLive = true) (trace : List Event) :
    liveDescriptors (trace ++ events) = liveDescriptors trace := by
  induction events using List.reverseRecOn with
  | nil => rw [List.append_nil]
  | append_singleton events last ih =>
    have kept : last.keepsLive = true := keeps last (by simp)
    rw [← List.append_assoc, live_concat, ih fun e he => keeps e (List.mem_append_left _ he)]
    cases last with
    | opened => cases kept
    | closed => cases kept
    | _ => rfl

theorem usesLive_append {trace events : List Event} (sofar : EachAfter UsesLive trace)
    (keeps : ∀ e ∈ events, e.keepsLive = true)
    (live : ∀ e ∈ events, ∀ d, e.uses = some d → d ∈ liveDescriptors trace) :
    EachAfter UsesLive (trace ++ events) := by
  induction events using List.reverseRecOn with
  | nil => rwa [List.append_nil]
  | append_singleton events last ih =>
    have before : ∀ e ∈ events, e.keepsLive = true := fun e he => keeps e (List.mem_append_left _ he)
    rw [← List.append_assoc, eachAfter_concat]
    refine ⟨ih before fun e he => live e (List.mem_append_left _ he), fun d uses => ?_⟩
    rw [live_append before]
    exact live last (by simp) d uses

theorem Socket.Attached.logged {s t : Socket} (h : s.Attached) (events : List Event)
    (same : (t.descriptor, t.trace) = (s.descriptor, s.trace ++ events)) (keeps : ∀ e ∈ events, e.keepsLive = true) :
    t.Attached := by
  obtain ⟨descriptor, trace⟩ : t.descriptor = s.descriptor ∧ t.trace = s.trace ++ events := by simpa using same
  rwa [Attached, descriptor, trace, live_append keeps]

theorem Socket.Attached.same {s t : Socket} (h : s.Attached) (same : (t.descriptor, t.trace) = (s.descriptor, s.trace)) :
    t.Attached :=
  h.logged [] (by rw [same, List.append_nil]) fun _ none => nomatch none

namespace Anchored

variable {known : Prop} {s t : Socket} {slot : Slot}

theorem create (protocol : Protocol) : Anchored known (.create protocol) where
  transfers := eachAfter_nil
  watching _ := nofun
  reading _ := nofun
  writing _ := nofun
  field _ none := absurd rfl none

/-- Events have been logged, each on a live descriptor if on any. -/
theorem logged (h : Anchored known s) (events : List Event)
    (same : (t.descriptor, t.readNotifier, t.writeNotifier, t.watched, t.trace) =
      (s.descriptor, s.readNotifier, s.writeNotifier, s.watched, s.trace ++ events))
    (keeps : ∀ e ∈ events, e.keepsLive = true)
    (live : ∀ e ∈ events, ∀ d, e.uses = some d → d ∈ liveDescriptors s.trace) : Anchored known t := by
  obtain ⟨descriptor, readNotifier, writeNotifier, watched, trace⟩ :
      t.descriptor = s.descriptor ∧ t.readNotifier = s.readNotifier ∧ t.writeNotifier = s.writeNotifier ∧
        t.watched = s.watched ∧ t.trace = s.trace ++ events := by
    simpa using same
  have ds : liveDescriptors t.trace = liveDescriptors s.trace := by rw [trace, live_append keeps]
  constructor
  · constructor
    · rw [trace]
      exact usesLive_append h.transfers keeps live
    · intro made mem
      obtain ⟨before, there⟩ := h.watching made (watched ▸ mem)
      rw [trace, List.take_append_of_le_length before, List.length_append]
      exact ⟨by omega, there⟩
    · rw [readNotifier, ds]
      exact h.reading
    · rw [writeNotifier, ds]
      exact h.writing
  · rw [descriptor, Socket.Attached, descriptor, ds]
    exact h.field

/-- Buffers, flags, counters, errors, states and options do not bear on descriptors. -/
theorem same (h : Anchored known s) (same : (t.descriptor, t.readNotifier, t.writeNotifier, t.watched, t.trace) =
    (s.descriptor, s.readNotifier, s.writeNotifier, s.watched, s.trace)) : Anchored known t :=
  h.logged [] (by rw [same, List.append_nil]) (fun _ none => nomatch none) fun _ none => nomatch none

theorem log (h : Anchored known s) {e : Event} (keeps : e.keepsLive = true) (silent : e.uses = none) :
    Anchored known (s.log e) := by
  refine h.logged [e] rfl ?_ ?_
  · simpa using keeps
  · simp [silent]

theorem emit (h : Anchored known s) (rely : ∀ sig s, KeepsLive s (slot sig s)) (sig : Signal) :
    Anchored known (s.emit slot sig) :=
  rely sig _ known (h.log rfl rfl)

theorem setError (h : Anchored known s) (rely : ∀ sig s, KeepsLive s (slot sig s)) (info : CanAbstractSocketErrorInfo) :
    Anchored known (s.setError slot info) :=
  (h.same rfl : Anchored known { s with error := info.errorCode, errorString := info.errorString }).emit rely _

theorem setSystemError (h : Anchored known s) (rely : ∀ sig s, KeepsLive s (slot sig s)) (e : Errno) :
    Anchored known (s.setSystemError slot e) :=
  (h.same rfl : Anchored known (s.setErrno (some e))).setError rely _

theorem setSocketState (h : Anchored known s) (rely : ∀ sig s, KeepsLive s (slot sig s)) (state : SocketState) :
    Anchored known (s.setSocketState slot state) := by
  have entered : Anchored known { s with state := state } := h.same rfl
  unfold Socket.setSocketState
  split
  · exact entered.emit rely _
  · exact entered

/-- A notifier is made on the live descriptor of the socket. -/
theorem watch (h : Anchored known s) (attached : s.Attached) : Anchored known s.watch := by
  refine ⟨⟨h.transfers, fun made mem => ?_, h.reading, h.writing⟩, h.field⟩
  rcases List.mem_append.mp mem with earlier | now
  · exact h.watching made earlier
  · rw [List.mem_singleton.mp now]
    refine ⟨Nat.le_refl _, ?_⟩
    change s.descriptor ∈ liveDescriptors (s.trace.take s.trace.length)
    rwa [List.take_length]

theorem setRead (h : Anchored known s) {enable : Bool}
    (attached : enable = true → s.readNotifier = none → s.Attached) :
    Anchored known (s.setReadNotificationEnabled enable) := by
  unfold Socket.setReadNotificationEnabled
  cases notifier : s.readNotifier with
  | some n =>
    exact ⟨⟨h.transfers, h.watching, fun m same => Option.some.inj same ▸ h.reading n notifier, h.writing⟩, h.field⟩
  | none =>
    cases enable with
    | false => exact h
    | true =>
      have live := attached rfl notifier
      have made := h.watch live
      exact ⟨⟨made.transfers, made.watching, fun m same => Option.some.inj same ▸ live, made.writing⟩, made.field⟩

theorem setWrite (h : Anchored known s) {enable : Bool}
    (attached : enable = true → s.writeNotifier = none → s.Attached) :
    Anchored known (s.setWriteNotificationEnabled enable) := by
  unfold Socket.setWriteNotificationEnabled
  cases notifier : s.writeNotifier with
  | some n =>
    exact ⟨⟨h.transfers, h.watching, h.reading, fun m same => Option.some.inj same ▸ h.writing n notifier⟩, h.field⟩
  | none =>
    cases enable with
    | false => exact h
    | true =>
      have live := attached rfl notifier
      have made := h.watch live
      exact ⟨⟨made.transfers, made.watching, made.reading, fun m same => Option.some.inj same ▸ live⟩, made.field⟩

theorem sendBlock (h : Anchored known s) (env : WriteEnv)
    (attached : (s.writeResult env).calls ≠ [] → s.Attached) : Anchored known (s.sendBlock env) := by
  refine h.logged (.writeToSocket s.emittedBytesWritten (s.nextDataBlock env) (s.writeAnswers env.answers) ::
    (s.writeResult env).calls.map (Event.write s.descriptor)) rfl ?_ ?_
  · simp [Event.keepsLive]
  · intro e mem d uses
    rcases List.mem_cons.mp mem with rfl | mem
    · cases uses
    · obtain ⟨call, issued, rfl⟩ := List.mem_map.mp mem
      cases uses
      exact attached (List.ne_nil_of_mem issued)

theorem fillSpace (h : Anchored known s) (answers : List ReadAnswer) (bytesToRead : Int)
    (attached : (s.protocol.readFromSocket bytesToRead (s.readAnswers answers)).calls ≠ [] → s.Attached) :
    Anchored known (s.fillSpace answers bytesToRead) := by
  refine h.logged (.readFromSocket bytesToRead (s.readAnswers answers) ::
    (s.protocol.readFromSocket bytesToRead (s.readAnswers answers)).calls.map
      (Event.read s.descriptor bytesToRead)) rfl ?_ ?_
  · simp [Event.keepsLive]
  · intro e mem d uses
    rcases List.mem_cons.mp mem with rfl | mem
    · cases uses
    · obtain ⟨call, issued, rfl⟩ := List.mem_map.mp mem
      cases uses
      exact attached (List.ne_nil_of_mem issued)

end Anchored

/-- A block of this kind comes to no `::write`, and not to a notifier where there is none. -/
theorem Socket.SendsNothing.calls {env : WriteEnv} {s : Socket} (h : s.SendsNothing env) (waiting : s.writeBuffer ≠ []) :
    (s.writeResult env).calls = [] ∧ (0 ≤ (s.writeResult env).ret → s.writeNotifier ≠ none) := by
  obtain ⟨options, raw, nothing⟩ := h.resolve_left waiting
  have sent : s.writeResult env = writeLoop options.flexibleDataRateFrames (s.nextDataBlock env)
      (s.writeAnswers env.answers) 0 := by
    rw [writeResult, raw]
    rfl
  rw [sent]
  split at nothing
  next short =>
    cases s.writeAnswers env.answers <;> simpa [writeLoop, short] using nothing
  next long =>
    cases s.writeAnswers env.answers <;> simp [writeLoop, long, nothing]

theorem Socket.Attached.sent {s : Socket} (h : s.Attached) (env : WriteEnv) (writtenBytes : Int) :
    ((s.sendBlock env).freeWritten writtenBytes).Attached := by
  have sent : (s.sendBlock env).Attached := by
    refine h.logged (.writeToSocket s.emittedBytesWritten (s.nextDataBlock env) (s.writeAnswers env.answers) ::
      (s.writeResult env).calls.map (Event.write s.descriptor)) rfl ?_
    simp [Event.keepsLive]
  exact sent.logged [.freed writtenBytes] rfl (by simp [Event.keepsLive])

theorem readLoop_calls {fd : FlexibleDataRateFrames} {maxSize : Int} (less : maxSize < frameSize fd)
    (answers : List ReadAnswer) : (readLoop fd maxSize answers []).calls = [] := by
  have none : ¬(frameSize fd : Int) ≤ maxSize := by omega
  cases answers <;> simp [readLoop, none]

namespace Anchored

variable {known : Prop} {s t : Socket} {slot : Slot}

theorem startAsyncWrite (h : Anchored known s) (rely : ∀ sig s, KeepsLive s (slot sig s)) {env : WriteEnv}
    (ready : s.Attached ∨ s.SendsNothing env) : Anchored known (s.startAsyncWrite slot env).2 := by
  unfold Socket.startAsyncWrite
  split
  · exact h
  next going =>
    have waiting : s.writeBuffer ≠ [] := fun empty => going (Or.inl empty)
    have sent := h.sendBlock env fun issued => ready.resolve_right fun nothing => issued (nothing.calls waiting).1
    dsimp only
    split
    · split
      · exact sent.setError rely _
      · exact sent.setError rely _
    next took =>
      have freed : Anchored known ((s.sendBlock env).freeWritten (s.writeResult env).ret) :=
        sent.logged [.freed (s.writeResult env).ret] rfl (by simp [Event.keepsLive]) (by simp [Event.uses])
      split
      · refine freed.setWrite fun _ none => Socket.Attached.sent ?_ env _
        exact ready.resolve_right fun nothing => (nothing.calls waiting).2 (by omega) none
      · exact freed

theorem emitBytesWritten (h : Anchored known s) (rely : ∀ sig s, KeepsLive s (slot sig s)) :
    Anchored known (s.emitBytesWritten slot) := by
  unfold Socket.emitBytesWritten
  split
  · have marked : Anchored known { s with emittedBytesWritten := true } := h.same rfl
    exact (marked.emit rely (.bytesWritten s.pendingBytesWritten)).same rfl
  · exact h

theorem completeAsyncWrite (h : Anchored known s) (rely : ∀ sig s, KeepsLive s (slot sig s)) {env : WriteEnv}
    (ready : (s.emitBytesWritten slot).Attached ∨ (s.emitBytesWritten slot).SendsNothing env) :
    Anchored known (s.completeAsyncWrite slot env).2 := by
  have resumed : Anchored known { s.emitBytesWritten slot with writeSequenceStarted := false } :=
    (h.emitBytesWritten rely).same rfl
  unfold Socket.completeAsyncWrite
  dsimp only
  split
  · exact resumed.setWrite fun on => nomatch on
  · exact resumed.startAsyncWrite rely ready

theorem emitReadyRead (h : Anchored known s) (rely : ∀ sig s, KeepsLive s (slot sig s)) (newBytes : Int) :
    Anchored known (s.emitReadyRead slot newBytes) := by
  unfold Socket.emitReadyRead
  split
  · have marked : Anchored known { s with emittedReadyRead := true } := h.same rfl
    exact (marked.emit rely .readyRead).same rfl
  · exact h

theorem disableRead (h : Anchored known s) : Anchored known (s.setReadNotificationEnabled false) :=
  h.setRead fun on => nomatch on

theorem disableIfFull (h : Anchored known s) : Anchored known s.disableIfFull := by
  unfold Socket.disableIfFull
  split
  · exact h.disableRead
  · exact h

theorem failReceive (h : Anchored known s) (rely : ∀ sig s, KeepsLive s (slot sig s)) (bytesToRead : Int) :
    Anchored known (s.failReceive slot bytesToRead) := by
  unfold Socket.failReceive
  dsimp only
  split
  · exact (h.setError rely _).same rfl
  · exact (h.disableRead.setError rely _).same rfl

theorem receive (h : Anchored known s) (rely : ∀ sig s, KeepsLive s (slot sig s)) (answers : List ReadAnswer)
    {bytesToRead : Int}
    (attached : (s.protocol.readFromSocket bytesToRead (s.readAnswers answers)).calls ≠ [] → s.Attached) :
    Anchored known (s.receive slot answers bytesToRead).2 := by
  have filled := h.fillSpace answers bytesToRead attached
  unfold Socket.receive
  dsimp only
  split
  · exact filled.failReceive rely _
  · split
    · exact filled.disableRead.disableIfFull.emitReadyRead rely _
    · have chopped : Anchored known { s.fillSpace answers bytesToRead with
          buffer := Socket.chop (bytesToRead - (s.protocol.readFromSocket bytesToRead (s.readAnswers answers)).ret)
            (s.fillSpace answers bytesToRead).buffer } := filled.same rfl
      exact chopped.disableIfFull.emitReadyRead rely _

theorem readNotification (h : Anchored known s) (rely : ∀ sig s, KeepsLive s (slot sig s))
    (ready : s.Attached ∨ s.ReadsNothing) (answers : List ReadAnswer) :
    Anchored known (s.readNotification slot answers).2 := by
  have asked : s.roomToRead ≠ 0 →
      (s.protocol.readFromSocket s.roomToRead (s.readAnswers answers)).calls ≠ [] → s.Attached := by
    intro room issued
    refine ready.resolve_right fun nothing => issued ?_
    obtain ⟨options, raw, less⟩ := nothing.resolve_left room
    rw [raw]
    exact readLoop_calls less _
  unfold Socket.readNotification
  dsimp only
  split
  next limited =>
    have room : s.roomToRead = s.readBufferMaxSize - s.buffer.length := if_pos limited
    rw [← room]
    split
    · exact h.disableRead
    next some => exact h.receive rely answers (asked some)
  next unlimited =>
    have room : s.roomToRead = s.protocol.readChunkSize := if_neg unlimited
    rw [← room]
    refine h.receive rely answers (asked ?_)
    rw [room]
    cases s.protocol <;> simp [Protocol.readChunkSize]

theorem waitForReadOrWrite (h : Anchored known s) (rely : ∀ sig s, KeepsLive s (slot sig s)) (attached : s.Attached)
    (checkRead checkWrite : Bool) (msecs : Int32) (answer : SelectAnswer) :
    Anchored known (s.waitForReadOrWrite slot checkRead checkWrite msecs answer).2 := by
  have waited : Anchored known (s.log (.select s.descriptor checkRead checkWrite msecs answer)) :=
    h.logged [.select s.descriptor checkRead checkWrite msecs answer] rfl (by simp [Event.keepsLive])
      (by simpa [Event.uses, Socket.Attached] using attached)
  unfold Socket.waitForReadOrWrite
  cases answer with
  | fail e => exact waited.setSystemError rely e
  | timeout => exact waited.setError rely _
  | ready read write => exact waited

theorem writeDevice (h : Anchored known s) (data : List UInt8)
    (attached : s.openMode.writeOnly = true → s.writeBuffer ++ data ≠ [] → s.writeNotifier = none → s.Attached) :
    Anchored known (s.writeDevice data) := by
  unfold Socket.writeDevice
  split
  · exact h
  next allowed =>
    have queued : Anchored known (({ s with writeBuffer := s.writeBuffer ++ data }).log (.queued data)) :=
      h.logged [.queued data] rfl (by simp [Event.keepsLive]) (by simp [Event.uses])
    unfold Socket.writeData
    dsimp only
    split
    next some =>
      exact queued.setWrite fun _ none =>
        (attached (by simpa using allowed) some.1 none).logged [.queued data] rfl (by simp [Event.keepsLive])
    next => exact queued

theorem readDevice (h : Anchored known s) (maxSize : Nat)
    (attached : s.openMode.readOnly = true → 0 < maxSize → s.buffer.length ≤ maxSize → s.readBufferMaxSize ≠ 0 →
      s.readNotifier = none → s.Attached) : Anchored known (s.readDevice maxSize) := by
  unfold Socket.readDevice
  split
  · exact h
  next allowed =>
    have taken : Anchored known (({ s with buffer := s.buffer.drop maxSize }).log (.userRead (s.buffer.take maxSize))) :=
      h.logged [.userRead (s.buffer.take maxSize)] rfl (by simp [Event.keepsLive]) (by simp [Event.uses])
    dsimp only
    split
    next more =>
      unfold Socket.readData
      split
      next limited =>
        exact taken.setRead fun _ none =>
          (attached (by simpa using allowed) more.1 more.2 limited.1 none).logged
            [.userRead (s.buffer.take maxSize)] rfl (by simp [Event.keepsLive])
      next => exact taken
    next => exact taken

theorem setReadBufferSize (h : Anchored known s) (size : Int) : Anchored known (s.setReadBufferSize size) := by
  unfold Socket.setReadBufferSize
  split
  · exact h
  · exact h.same rfl

theorem applyOption (h : Anchored known s) (rely : ∀ sig s, KeepsLive s (slot sig s)) {option : KernelOption}
    {answer : Option Errno} {differs : Bool} {store : Socket → Socket} {changed : Signal}
    (stores : ∀ t, Anchored known t → Anchored known (store t)) :
    Anchored known (s.applyOption slot option answer differs store changed).2 := by
  have asked : Anchored known (s.setsockopt option answer).2 := h.log rfl rfl
  unfold Socket.applyOption
  split
  next e t eq =>
    rw [eq] at asked
    exact asked.setSystemError rely e
  next t eq =>
    rw [eq] at asked
    split
    next => exact (stores t asked).emit rely changed
    next => exact asked

theorem setSocketOption (h : Anchored known s) (rely : ∀ sig s, KeepsLive s (slot sig s)) (option : SocketOption)
    (answer : Option Errno) : Anchored known (s.setSocketOption slot option answer).2 := by
  have raw : ∀ o t, Anchored known t → Anchored known (t.withRaw o) := fun o t ht => ht.same rfl
  have isoTp : ∀ f t, Anchored known t → Anchored known (t.withIsoTp f) := fun f t ht => ht.same rfl
  have release : ∀ (free : CanIsoTpFields → CanIsoTpFields) (r : Bool × Socket), Anchored known r.2 →
      Anchored known (Socket.releaseCopy free r).2 := by
    intro free r hr
    unfold Socket.releaseCopy
    split
    · exact hr.same rfl
    · exact hr
  unfold Socket.setSocketOption
  split
  next o _ =>
    cases option with
    | canFilterOption new => exact h.applyOption rely (raw _)
    | errorFilterMaskOption new => exact h.applyOption rely (raw _)
    | loopbackOption new => exact h.applyOption rely (raw _)
    | receiveOwnMessagesOption new => exact h.applyOption rely (raw _)
    | flexibleDataRateFramesOption new =>
      unfold Socket.setRawOption
      dsimp only
      split <;> exact h
    | _ => exact h
  next f _ =>
    cases option with
    | txIdOption new =>
      unfold Socket.setIsoTpOption
      dsimp only
      split
      · exact (isoTp _ s h).emit rely _
      · exact h
    | rxIdOption new =>
      unfold Socket.setIsoTpOption
      dsimp only
      split
      · exact (isoTp _ s h).emit rely _
      · exact h
    | isoTpOptions new => exact release _ _ (h.applyOption rely (isoTp _))
    | flowControlOptions new => exact release _ _ (h.applyOption rely (isoTp _))
    | txMinSepTimeOption new => exact h.applyOption rely (isoTp _)
    | rxMinSepTimeOption new => exact h.applyOption rely (isoTp _)
    | linkLayerOptions new => exact release _ _ (h.applyOption rely (isoTp _))
    | _ => exact h

theorem replayOptions (h : Anchored known s) (rely : ∀ sig s, KeepsLive s (slot sig s)) (answers : Nat → Option Errno)
    (options : List (Protocol → SocketOption)) (i : Nat) :
    Anchored known (s.replayOptions slot answers options i).2 := by
  induction options generalizing i s with
  | nil => exact h
  | cons option options ih =>
    have set := h.setSocketOption rely (option s.protocol) (answers i)
    unfold Socket.replayOptions
    split
    next t eq => rwa [eq] at set
    next t eq =>
      rw [eq] at set
      exact ih set (i + 1)

end Anchored

end CanSocket
