import CanSocket.PublicInterface
import CanSocket.ReadWakeup
import CanSocket.WriteSide

namespace CanSocket

/-- Events that come with no change of a property, of the write buffer or of what is accounted for. -/
def Event.passing : Event → Bool
  | .userRead _ => true
  | .select .. => true
  | .opened _ => true
  | .closed _ => true
  | .setsockopt .. => true
  | .bind .. => true
  | _ => false

/-- The fields a property is read from, those the write side and the two signals go by, and the trace. -/
structure PublicView where
  state : SocketState
  error : SocketError
  protocol : Protocol
  writeBuffer : List UInt8
  pendingBytesWritten : Int
  emittedReadyRead : Bool
  emittedBytesWritten : Bool
  trace : List Event

def Socket.publicView (s : Socket) : PublicView :=
  ⟨s.state, s.error, s.protocol, s.writeBuffer, s.pendingBytesWritten, s.emittedReadyRead,
    s.emittedBytesWritten, s.trace⟩

/-- What the code does to the object in one go, up to where slots run or the next such change begins;
the state of the socket is another matter. -/
inductive Move : Socket → Socket → Prop
  | silent {s t : Socket} (same : t.publicView = s.publicView) : Move s t
  | passed {s : Socket} (e : Event) (passing : e.passing = true) : Move s (s.log e)
  | queued {s : Socket} (data : List UInt8) (writable : s.openMode.writeOnly = true) :
    Move s (({ s with writeBuffer := s.writeBuffer ++ data }).log (.queued data))
  | failed {s : Socket} (env : WriteEnv) (waiting : s.writeBuffer ≠ []) (ret : (s.writeResult env).ret < 0) :
    Move s (s.sendBlock env)
  | sent {s : Socket} (env : WriteEnv) (n : Nat) (waiting : s.writeBuffer ≠ []) (ret : (s.writeResult env).ret = n)
    (inside : n ≤ (s.nextDataBlock env).length)
    (taken : acceptedBytes (s.writeResult env).calls = (s.nextDataBlock env).take n) :
    Move s ((s.sendBlock env).freeWritten n)
  | filled {s : Socket} (answers : List ReadAnswer) (bytesToRead : Int) : Move s (s.fillSpace answers bytesToRead)
  | errored {s : Socket} (info : CanAbstractSocketErrorInfo) :
    Move s (({ s with error := info.errorCode, errorString := info.errorString }).log
      (.signal (.error info.errorCode)))
  | stored {s : Socket} (option : SocketOption) (sig : Signal) (differs : s.protocol.differs option = true)
    (changed : option.changed = some sig) :
    Move s (({ s with protocol := s.protocol.assigned option }).log (.signal sig))
  | released {s : Socket} (option : SocketOption) : Move s { s with protocol := s.protocol.released option }
  | detached {s : Socket} : Move s { s with pendingBytesWritten := 0 }

/-- A relation kept by every move, and over the two signals that are told of inside their own flag. -/
structure MovesKeep (R : Socket → Socket → Prop) : Prop where
  trans : ∀ {s t u}, R s t → R t u → R s u
  move : ∀ {s t}, Move s t → R s t
  reading : ∀ {s t : Socket}, s.emittedReadyRead = false →
    R (({ s with emittedReadyRead := true }).log (.signal .readyRead)) t → R s { t with emittedReadyRead := false }
  reporting : ∀ {s t : Socket}, 0 < s.pendingBytesWritten → s.emittedBytesWritten = false →
    R (({ s with emittedBytesWritten := true }).log (.signal (.bytesWritten s.pendingBytesWritten))) t →
    R s { t with pendingBytesWritten := 0, emittedBytesWritten := false }

/-- With the changes of the state: a connect begins with empty buffers, and any other state is entered as it is. -/
structure StatesKeep (R : Socket → Socket → Prop) : Prop extends MovesKeep R where
  started : ∀ (interfaceName : String) (mode : OpenMode) {s : Socket}, s.state = .unconnectedState →
    R s (({ s with
      interfaceName := interfaceName
      state := .connectingState
      buffer := []
      writeBuffer := []
      openMode := mode }).log (.signal (.stateChanged .connectingState)))
  entered : ∀ {socketState : SocketState} {s : Socket}, s.state ≠ socketState → socketState ≠ .connectingState →
    R s (({ s with state := socketState }).log (.signal (.stateChanged socketState)))

namespace MovesKeep

variable {R : Socket → Socket → Prop} {slot : Slot}

/-- For a relation on which the flags of the two signals and the pending amount have no bearing. -/
theorem of_unflagged (trans : ∀ {s t u}, R s t → R t u → R s u) (move : ∀ {s t}, Move s t → R s t)
    (unflagged : ∀ {s t : Socket}, (t.state, t.error, t.protocol, t.writeBuffer, t.trace) =
      (s.state, s.error, s.protocol, s.writeBuffer, s.trace) → R s t)
    (readyRead : ∀ s : Socket, R s (s.log (.signal .readyRead)))
    (bytesWritten : ∀ n (s : Socket), R s (s.log (.signal (.bytesWritten n)))) : MovesKeep R where
  trans := trans
  move := move
  reading {s _} _ told :=
    have marked : R s { s with emittedReadyRead := true } := unflagged rfl
    trans (trans (trans marked (readyRead _)) told) (unflagged rfl)
  reporting {s _} _ _ told :=
    have marked : R s { s with emittedBytesWritten := true } := unflagged rfl
    trans (trans (trans marked (bytesWritten _ _)) told) (unflagged rfl)

theorem silent (h : MovesKeep R) {s t : Socket} (same : t.publicView = s.publicView) : R s t := h.move (.silent same)

theorem refl (h : MovesKeep R) (s : Socket) : R s s := h.silent rfl

theorem setRead (h : MovesKeep R) (enable : Bool) (s : Socket) : R s (s.setReadNotificationEnabled enable) := by
  obtain ⟨made, eq⟩ := s.setRead_eq enable
  rw [eq]
  exact h.silent rfl

theorem setWrite (h : MovesKeep R) (enable : Bool) (s : Socket) : R s (s.setWriteNotificationEnabled enable) := by
  obtain ⟨made, eq⟩ := s.setWrite_eq enable
  rw [eq]
  exact h.silent rfl

theorem setError (h : MovesKeep R) (slots : ∀ sig s, R s (slot sig s)) (info : CanAbstractSocketErrorInfo)
    (s : Socket) : R s (s.setError slot info) :=
  h.trans (h.move (.errored info)) (slots _ _)

theorem setSystemError (h : MovesKeep R) (slots : ∀ sig s, R s (slot sig s)) (e : Errno) (s : Socket) :
    R s (s.setSystemError slot e) :=
  h.trans (h.silent rfl : R s (s.setErrno (some e))) (h.setError slots _ _)

theorem announced (h : MovesKeep R) (slots : ∀ sig s, R s (slot sig s)) (s : Socket) : R s (s.announced slot) := by
  have emitted : R s (s.emitBytesWritten slot) := by
    unfold Socket.emitBytesWritten
    split
    next report => exact h.reporting report.1 (by simpa using report.2) (slots _ _)
    next => exact h.refl s
  exact h.trans emitted (h.silent rfl)

theorem startAsyncWrite (h : MovesKeep R) (slots : ∀ sig s, R s (slot sig s)) (env : WriteEnv) {s : Socket}
    (waiting : s.writeBuffer ≠ []) (idle : s.writeSequenceStarted = false) : R s (s.startAsyncWrite slot env).2 := by
  rcases s.startAsyncWrite_cases slot env waiting idle with ⟨info, ret, eq⟩ | ⟨n, made, ret, inside, taken, eq, -⟩
  · rw [eq]
    exact h.trans (h.move (.failed env waiting ret)) (h.setError slots info _)
  · rw [eq]
    exact h.trans (h.move (.sent env n waiting ret inside taken)) (h.silent rfl)

theorem completeAsyncWrite (h : MovesKeep R) (slots : ∀ sig s, R s (slot sig s)) (env : WriteEnv) (s : Socket) :
    R s (s.completeAsyncWrite slot env).2 := by
  rcases s.completeAsyncWrite_cases slot env with ⟨_, eq⟩ | ⟨waiting, eq⟩
  · rw [eq]
    exact h.trans (h.announced slots s) (h.setWrite false _)
  · rw [eq]
    exact h.trans (h.announced slots s) (h.startAsyncWrite slots env waiting rfl)

theorem emitReadyRead (h : MovesKeep R) (slots : ∀ sig s, R s (slot sig s)) (newBytes : Int) (s : Socket) :
    R s (s.emitReadyRead slot newBytes) := by
  unfold Socket.emitReadyRead
  split
  next first => exact h.reading (by simpa using first.1) (slots _ _)
  next => exact h.refl s

theorem disableIfFull (h : MovesKeep R) (s : Socket) : R s s.disableIfFull := by
  unfold Socket.disableIfFull
  split
  · exact h.setRead false s
  · exact h.refl s

theorem failReceive (h : MovesKeep R) (slots : ∀ sig s, R s (slot sig s)) (bytesToRead : Int) (s : Socket) :
    R s (s.failReceive slot bytesToRead) := by
  unfold Socket.failReceive
  dsimp only
  split
  · exact h.trans (h.setError slots _ s) (h.silent rfl)
  · exact h.trans (h.trans (h.setRead false s) (h.setError slots _ _)) (h.silent rfl)

theorem receive (h : MovesKeep R) (slots : ∀ sig s, R s (slot sig s)) (answers : List ReadAnswer) (bytesToRead : Int)
    (s : Socket) : R s (s.receive slot answers bytesToRead).2 := by
  have filled := h.move (.filled (s := s) answers bytesToRead)
  unfold Socket.receive
  dsimp only
  split
  · exact h.trans filled (h.failReceive slots _ _)
  · split
    · exact h.trans filled (h.trans (h.setRead false _) (h.trans (h.disableIfFull _) (h.emitReadyRead slots _ _)))
    · have chopped : R (s.fillSpace answers bytesToRead) { s.fillSpace answers bytesToRead with
          buffer := Socket.chop (bytesToRead - (s.protocol.readFromSocket bytesToRead (s.readAnswers answers)).ret)
            (s.fillSpace answers bytesToRead).buffer } := h.silent rfl
      exact h.trans filled (h.trans chopped (h.trans (h.disableIfFull _) (h.emitReadyRead slots _ _)))

theorem readNotification (h : MovesKeep R) (slots : ∀ sig s, R s (slot sig s)) (answers : List ReadAnswer)
    (s : Socket) : R s (s.readNotification slot answers).2 := by
  rcases s.readNotification_cases slot answers with ⟨_, eq⟩ | ⟨_, eq⟩
  · rw [eq]
    exact h.setRead false s
  · rw [eq]
    exact h.receive slots answers _ s

theorem waitForReadOrWrite (h : MovesKeep R) (slots : ∀ sig s, R s (slot sig s)) (checkRead checkWrite : Bool)
    (msecs : Int32) (answer : SelectAnswer) (s : Socket) :
    R s (s.waitForReadOrWrite slot checkRead checkWrite msecs answer).2 := by
  have waited := h.move (.passed (s := s) (.select s.descriptor checkRead checkWrite msecs answer) rfl)
  unfold Socket.waitForReadOrWrite
  cases answer with
  | fail e => exact h.trans waited (h.setSystemError slots e _)
  | timeout => exact h.trans waited (h.setError slots _ _)
  | ready read write => exact waited

theorem writeDevice (h : MovesKeep R) (data : List UInt8) (s : Socket) : R s (s.writeDevice data) := by
  unfold Socket.writeDevice
  split
  · exact h.refl s
  next closed =>
    have queued := h.move (.queued (s := s) data (by simpa using closed))
    unfold Socket.writeData
    dsimp only
    split
    · exact h.trans queued (h.setWrite true _)
    · exact queued

theorem readDevice (h : MovesKeep R) (maxSize : Nat) (s : Socket) : R s (s.readDevice maxSize) := by
  unfold Socket.readDevice
  split
  · exact h.refl s
  · have shortened : R s { s with buffer := s.buffer.drop maxSize } := h.silent rfl
    have taken := h.trans shortened (h.move (.passed (.userRead (s.buffer.take maxSize)) rfl))
    dsimp only
    split
    · unfold Socket.readData
      split
      · exact h.trans taken (h.setRead true _)
      · exact taken
    · exact taken

theorem setReadBufferSize (h : MovesKeep R) (size : Int) (s : Socket) : R s (s.setReadBufferSize size) := by
  unfold Socket.setReadBufferSize
  split
  · exact h.refl s
  · exact h.silent rfl

theorem partsKeep (h : MovesKeep R) (slots : ∀ sig s, R s (slot sig s)) : PartsKeep slot (fun _ => True) R where
  refl := h.refl
  trans := h.trans
  select := h.waitForReadOrWrite slots
  write := h.writeDevice
  read := h.readDevice
  limit := h.setReadBufferSize
  receive answers _ s := h.readNotification slots answers s
  send := h.completeAsyncWrite slots

/-- A value is stored where it differs, under the signal of its option. -/
theorem store (h : MovesKeep R) (slots : ∀ sig s, R s (slot sig s)) {s t : Socket} {option : SocketOption} {sig : Signal}
    (differs : s.protocol.differs option = true) (changed : option.changed = some sig)
    (eq : t = { s with protocol := s.protocol.assigned option }) : R s (t.emit slot sig) := by
  rw [eq]
  exact h.trans (h.move (.stored option sig differs changed)) (slots _ _)

theorem applyOption (h : MovesKeep R) (slots : ∀ sig s, R s (slot sig s)) {s : Socket} {option : SocketOption}
    {kernel : KernelOption} {answer : Option Errno} {differs : Bool} {store : Socket → Socket} {sig : Signal}
    (same : differs = s.protocol.differs option) (changed : option.changed = some sig)
    (stores : ∀ t : Socket, t.protocol = s.protocol → store t = { t with protocol := t.protocol.assigned option }) :
    R s (s.applyOption slot kernel answer differs store sig).2 := by
  have asked : R s (s.setsockopt kernel answer).2 := h.move (.passed _ rfl)
  have fields : (s.setsockopt kernel answer).2.protocol = s.protocol := rfl
  unfold Socket.applyOption
  split
  next e t eq =>
    rw [eq] at asked
    exact h.trans asked (h.setSystemError slots e t)
  next t eq =>
    rw [eq] at asked fields
    split
    next new => exact h.trans asked (h.store slots (fields ▸ same ▸ new) changed (stores t fields))
    next => exact asked

theorem releaseCopy (h : MovesKeep R) (option : SocketOption) {release : CanIsoTpFields → CanIsoTpFields}
    (releases : ∀ f, (Protocol.isoTp f).released option = .isoTp (release f))
    (keeps : ∀ o, (Protocol.raw o).released option = .raw o) {s : Socket} {r : Bool × Socket} (kept : R s r.2) :
    R s (Socket.releaseCopy release r).2 := by
  rw [Socket.releaseCopy_eq releases keeps]
  dsimp only
  split
  · exact h.trans kept (h.move (.released option))
  · exact kept

theorem setSocketOption (h : MovesKeep R) (slots : ∀ sig s, R s (slot sig s)) (option : SocketOption)
    (answer : Option Errno) (s : Socket) : R s (s.setSocketOption slot option answer).2 := by
  unfold Socket.setSocketOption
  split
  next o protocol =>
    have stores : ∀ (option : SocketOption) (o' : CanRawOptions), (Protocol.raw o).assigned option = .raw o' →
        ∀ t : Socket, t.protocol = s.protocol → t.withRaw o' = { t with protocol := t.protocol.assigned option } := by
      intro option o' stored t same
      rw [same, protocol, stored]
      rfl
    cases option with
    | canFilterOption new => exact h.applyOption slots (by rw [protocol]; rfl) rfl (stores (.canFilterOption new) _ rfl)
    | errorFilterMaskOption new => exact h.applyOption slots (by rw [protocol]; rfl) rfl (stores (.errorFilterMaskOption new) _ rfl)
    | loopbackOption new => exact h.applyOption slots (by rw [protocol]; rfl) rfl (stores (.loopbackOption new) _ rfl)
    | receiveOwnMessagesOption new => exact h.applyOption slots (by rw [protocol]; rfl) rfl (stores (.receiveOwnMessagesOption new) _ rfl)
    | flexibleDataRateFramesOption new =>
      unfold Socket.setRawOption
      dsimp only
      split <;> exact h.refl s
    | _ => exact h.refl s
  next f protocol =>
    have stores : ∀ (option : SocketOption) (f' : CanIsoTpFields), (Protocol.isoTp f).assigned option = .isoTp f' →
        ∀ t : Socket, t.protocol = s.protocol → t.withIsoTp f' = { t with protocol := t.protocol.assigned option } := by
      intro option f' stored t same
      rw [same, protocol, stored]
      rfl
    cases option with
    | txIdOption new =>
      unfold Socket.setIsoTpOption
      dsimp only
      split
      next differs =>
        refine h.store slots ?_ rfl (stores (.txIdOption new) _ rfl s rfl)
        simpa [protocol, Protocol.differs] using differs
      next => exact h.refl s
    | rxIdOption new =>
      unfold Socket.setIsoTpOption
      dsimp only
      split
      next differs =>
        refine h.store slots ?_ rfl (stores (.rxIdOption new) _ rfl s rfl)
        simpa [protocol, Protocol.differs] using differs
      next => exact h.refl s
    | isoTpOptions new =>
      exact h.releaseCopy (.isoTpOptions new) (fun _ => rfl) (fun _ => rfl)
        (h.applyOption slots (by rw [protocol]; rfl) rfl (stores (.isoTpOptions new) _ rfl))
    | flowControlOptions new =>
      exact h.releaseCopy (.flowControlOptions new) (fun _ => rfl) (fun _ => rfl)
        (h.applyOption slots (by rw [protocol]; rfl) rfl (stores (.flowControlOptions new) _ rfl))
    | txMinSepTimeOption new => exact h.applyOption slots (by rw [protocol]; rfl) rfl (stores (.txMinSepTimeOption new) _ rfl)
    | rxMinSepTimeOption new => exact h.applyOption slots (by rw [protocol]; rfl) rfl (stores (.rxMinSepTimeOption new) _ rfl)
    | linkLayerOptions new =>
      exact h.releaseCopy (.linkLayerOptions new) (fun _ => rfl) (fun _ => rfl)
        (h.applyOption slots (by rw [protocol]; rfl) rfl (stores (.linkLayerOptions new) _ rfl))
    | _ => exact h.refl s

theorem replayOptions (h : MovesKeep R) (slots : ∀ sig s, R s (slot sig s)) (answers : Nat → Option Errno)
    (options : List (Protocol → SocketOption)) (i : Nat) (s : Socket) :
    R s (s.replayOptions slot answers options i).2 := by
  induction options generalizing i s with
  | nil => exact h.refl s
  | cons option options ih =>
    have set := h.setSocketOption slots (option s.protocol) (answers i) s
    unfold Socket.replayOptions
    split
    next t eq => rwa [eq] at set
    next t eq =>
      rw [eq] at set
      exact h.trans set (ih (i + 1) t)

theorem openDescriptor (h : MovesKeep R) (slots : ∀ sig s, R s (slot sig s)) (interfaceName : String) (env : ConnectEnv)
    (s : Socket) : R s (s.openDescriptor slot interfaceName env).2 := by
  have failed : ∀ {t} (e : Errno), R s t → R s (t.setSystemError slot e) :=
    fun e sofar => h.trans sofar (h.setSystemError slots e _)
  unfold Socket.openDescriptor
  dsimp only
  split
  next e _ => exact failed e (h.silent rfl)
  next d _ =>
    have opened : R s (({ s with descriptor := d }).log (.opened d)) :=
      h.trans (h.silent rfl : R s { s with descriptor := d }) (h.move (.passed (.opened d) rfl))
    split
    next e _ => exact failed e opened
    next =>
      split
      next e _ => exact failed e opened
      next =>
        have replayed := h.trans opened (h.replayOptions slots env.setsockopt (Socket.connectOptions env) 0 _)
        split
        next t eq => rwa [eq] at replayed
        next t eq =>
          rw [eq] at replayed
          have bound : ∀ answer, R s (t.log (.bind t.descriptor s.protocol.bindIds answer)) :=
            fun answer => h.trans replayed (h.move (.passed (.bind t.descriptor s.protocol.bindIds answer) rfl))
          split
          next e _ => exact failed e (bound _)
          next => exact bound _

theorem closeDescriptor (h : MovesKeep R) (slots : ∀ sig s, R s (slot sig s)) (answer : Option Errno) (s : Socket) :
    R s (s.closeDescriptor slot answer) := by
  have silenced : R s { s with readNotifier := none, writeNotifier := none } := h.silent rfl
  have left : ∀ t : Socket, R t { t with
      interfaceName := "", descriptor := -1, pendingBytesWritten := 0, writeSequenceStarted := false } :=
    fun t => h.trans (h.move .detached) (h.silent rfl)
  have closed := h.trans silenced (h.move (.passed (.closed s.descriptor) rfl))
  unfold Socket.closeDescriptor
  dsimp only
  split
  next =>
    cases answer with
    | some e => exact h.trans closed (h.trans (h.setSystemError slots e _) (left _))
    | none => exact h.trans closed (left _)
  next => exact h.trans silenced (left _)

theorem setTxId (h : MovesKeep R) (slots : ∀ sig s, R s (slot sig s)) (id : UInt32) (s : Socket) :
    R s (s.setTxId slot id).2 := by
  unfold Socket.setTxId
  split
  · exact h.setError slots _ s
  · exact h.setSocketOption slots _ _ s

theorem setRxId (h : MovesKeep R) (slots : ∀ sig s, R s (slot sig s)) (id : UInt32) (s : Socket) :
    R s (s.setRxId slot id).2 := by
  unfold Socket.setRxId
  split
  · exact h.setError slots _ s
  · exact h.setSocketOption slots _ _ s

end MovesKeep

namespace StatesKeep

variable {R : Socket → Socket → Prop} {slot : Slot}

theorem setSocketState (h : StatesKeep R) (slots : ∀ sig s, R s (slot sig s)) {state : SocketState}
    (settled : state ≠ .connectingState) (s : Socket) : R s (s.setSocketState slot state) := by
  unfold Socket.setSocketState
  split
  next new => exact h.trans (h.entered new settled) (slots _ _)
  next old => exact h.silent (by rw [← Classical.not_not.mp old])

theorem close (h : StatesKeep R) (slots : ∀ sig s, R s (slot sig s)) (answer : Option Errno) (s : Socket) :
    R s (s.close slot answer) := by
  unfold Socket.close
  split
  next => exact h.refl s
  next =>
    have begun : R s { s with openMode := .notOpen, buffer := [], errorString := .text "" } := h.silent rfl
    exact h.trans begun (h.trans (h.setSocketState slots (by decide) _)
      (h.trans (h.closeDescriptor slots answer _) (h.setSocketState slots (by decide) _)))

theorem connecting (h : StatesKeep R) (slots : ∀ sig s, R s (slot sig s)) (interfaceName : String) (mode : OpenMode)
    {s : Socket} (unconnected : s.state = .unconnectedState) :
    R s (({ s with
      interfaceName := interfaceName
      state := .unconnectedState
      buffer := []
      writeBuffer := []
      openMode := mode } : Socket).setSocketState slot .connectingState) := by
  unfold Socket.setSocketState
  split
  next => exact h.trans (h.started interfaceName mode unconnected) (slots _ _)
  next same => exact absurd (Classical.not_not.mp same) nofun

theorem connectToInterface (h : StatesKeep R) (slots : ∀ sig s, R s (slot sig s)) (interfaceName : String)
    (mode : OpenMode) (env : ConnectEnv) (s : Socket) : R s (s.connectToInterface slot interfaceName mode env).2 := by
  unfold Socket.connectToInterface
  split
  next => exact h.setError slots _ s
  next unconnected =>
    split
    next => exact h.setError slots _ s
    next =>
      have started := h.connecting slots interfaceName mode (Classical.not_not.mp unconnected)
      have opened := h.trans started (h.openDescriptor slots interfaceName env _)
      dsimp only
      split
      next t eq =>
        rw [eq] at opened
        exact h.trans opened (h.close slots env.close t)
      next t eq =>
        rw [eq] at opened
        have reading : R t (if mode.readOnly = true then t.setReadNotificationEnabled true else t) := by
          split
          · exact h.setRead true t
          · exact h.refl t
        exact h.trans opened (h.trans reading (h.setSocketState slots (by decide) _))

theorem exec (h : StatesKeep R) (slots : ∀ sig s, R s (slot sig s)) (c : Call) (s : Socket) : R s (s.exec slot c) := by
  cases c with
  | connectToInterface interfaceName mode env => exact h.connectToInterface slots interfaceName mode env s
  | close answer => exact h.close slots answer s
  | setSocketOption option answer => exact h.setSocketOption slots option answer s
  | _ =>
    refine (h.partsKeep slots).exec ?_ (fun _ _ => trivial) s
    exact trivial

theorem execPublic (h : StatesKeep R) (slots : ∀ sig s, R s (slot sig s)) (call : PublicCall) (s : Socket) :
    R s (s.execPublic slot call) := by
  cases call with
  | plain c => exact h.exec slots c s
  | clearError => exact h.setError slots _ s
  | disconnectFromInterface answer => exact h.close slots answer s
  | setTxId id => exact h.setTxId slots id s
  | setRxId id => exact h.setRxId slots id s
  | connectToInterfaceWithIds interfaceName txId rxId mode env =>
    have tx := h.setTxId slots txId s
    unfold Socket.execPublic Socket.connectToInterfaceWithIds
    dsimp only
    split
    next t eq => rwa [eq] at tx
    next t eq =>
      rw [eq] at tx
      have rx := h.trans tx (h.setRxId slots rxId t)
      split
      next u eq => rwa [eq] at rx
      next u eq =>
        rw [eq] at rx
        exact h.trans rx (h.connectToInterface slots interfaceName mode env u)

/-- The rule for runs of the whole interface, the slots of every signal calling back to any depth. -/
theorem script (h : StatesKeep R) (script : PublicScript) (s : Socket) : R s (script.exec s) :=
  CallRun.Script.run_rel h.refl h.trans (fun _ slots _ c _ s => h.execPublic slots c s) script.all_true s

end StatesKeep

end CanSocket
