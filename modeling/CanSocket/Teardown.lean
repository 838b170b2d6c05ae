import CanSocket.Link
import CanSocket.WriteSide

namespace CanSocket

open Ledger

/-- Options have been stored and signals emitted, no more. -/
def Told (s t : Socket) : Prop :=
  ∃ protocol error errorString errno trace,
    t = { s with
      protocol := protocol, error := error, errorString := errorString, errno := errno, trace := trace } ∧
    trace.filter Event.onLink = s.trace.filter Event.onLink

theorem Told.refl (s : Socket) : Told s s := ⟨_, _, _, _, _, rfl, rfl⟩

theorem Told.trans {s t u : Socket} (first : Told s t) (second : Told t u) : Told s u := by
  obtain ⟨_, _, _, _, _, rfl, same⟩ := first
  obtain ⟨_, _, _, _, _, rfl, same'⟩ := second
  exact ⟨_, _, _, _, _, rfl, same'.trans same⟩

theorem Told.downView {s t : Socket} (h : Told s t) : t.downView = s.downView := by
  obtain ⟨_, _, _, _, _, rfl, same⟩ := h
  simp [Socket.downView, Socket.linkView, same]

theorem Told.linkView {s t : Socket} (h : Told s t) : t.linkView = s.linkView :=
  Socket.linkView_of_downView h.downView

namespace Socket

theorem log_told {e : Event} (silent : e.act = none) (s : Socket) : Told s (s.log e) :=
  ⟨_, _, _, _, _, rfl, by simp [Event.onLink, silent]⟩

theorem setSystemError_told (e : Errno) (s : Socket) : Told s (s.setSystemError Slot.idle e) := by
  refine ⟨s.protocol, _, _, _, _, rfl, ?_⟩
  simp [setErrno, Event.onLink, Event.act]

theorem applyOption_told {option : KernelOption} {answer : Option Errno} {differs : Bool}
    {store : Socket → Socket} {changed : Signal} (stores : ∀ s, Told s (store s)) (s : Socket) :
    Told s (s.applyOption Slot.idle option answer differs store changed).2 := by
  have asked : Told s (s.setsockopt option answer).2 := log_told rfl s
  unfold applyOption
  split
  next e t eq =>
    rw [eq] at asked
    exact asked.trans (setSystemError_told e t)
  next t eq =>
    rw [eq] at asked
    split
    next => exact (asked.trans (stores t)).trans (log_told rfl _)
    next => exact asked

theorem withRaw_told (options : CanRawOptions) (s : Socket) : Told s (s.withRaw options) :=
  ⟨_, _, _, _, _, rfl, rfl⟩

theorem withIsoTp_told (fields : CanIsoTpFields) (s : Socket) : Told s (s.withIsoTp fields) :=
  ⟨_, _, _, _, _, rfl, rfl⟩

theorem setRawOption_told (o : CanRawOptions) (option : SocketOption) (answer : Option Errno)
    (s : Socket) : Told s (s.setRawOption Slot.idle o option answer).2 := by
  cases option with
  | canFilterOption new => exact applyOption_told (withRaw_told _) s
  | errorFilterMaskOption new => exact applyOption_told (withRaw_told _) s
  | loopbackOption new => exact applyOption_told (withRaw_told _) s
  | receiveOwnMessagesOption new => exact applyOption_told (withRaw_told _) s
  | flexibleDataRateFramesOption new =>
    unfold setRawOption
    dsimp only
    split <;> exact .refl s
  | _ => exact .refl s

theorem releaseCopy_told (release : CanIsoTpFields → CanIsoTpFields) (r : Bool × Socket) :
    Told r.2 (releaseCopy release r).2 := by
  unfold releaseCopy
  split
  next => exact withIsoTp_told _ _
  next => exact .refl _

theorem setIsoTpOption_told (f : CanIsoTpFields) (option : SocketOption) (answer : Option Errno)
    (s : Socket) : Told s (s.setIsoTpOption Slot.idle f option answer).2 := by
  have announced : ∀ (fields : CanIsoTpFields) (sig : Signal),
      Told s ((s.withIsoTp fields).emit Slot.idle sig) :=
    fun fields sig => (withIsoTp_told fields s).trans (log_told rfl _)
  cases option with
  | txIdOption new =>
    unfold setIsoTpOption
    dsimp only
    split
    next => exact announced _ _
    next => exact .refl s
  | rxIdOption new =>
    unfold setIsoTpOption
    dsimp only
    split
    next => exact announced _ _
    next => exact .refl s
  | isoTpOptions new => exact (applyOption_told (withIsoTp_told _) s).trans (releaseCopy_told _ _)
  | flowControlOptions new => exact (applyOption_told (withIsoTp_told _) s).trans (releaseCopy_told _ _)
  | txMinSepTimeOption new => exact applyOption_told (withIsoTp_told _) s
  | rxMinSepTimeOption new => exact applyOption_told (withIsoTp_told _) s
  | linkLayerOptions new => exact (applyOption_told (withIsoTp_told _) s).trans (releaseCopy_told _ _)
  | _ => exact .refl s

theorem setSocketOption_told (option : SocketOption) (answer : Option Errno) (s : Socket) :
    Told s (s.setSocketOption Slot.idle option answer).2 := by
  unfold setSocketOption
  split
  next o _ => exact setRawOption_told o option answer s
  next f _ => exact setIsoTpOption_told f option answer s

theorem replayOptions_told (answers : Nat → Option Errno) (options : List (Protocol → SocketOption))
    (i : Nat) (s : Socket) : Told s (s.replayOptions Slot.idle answers options i).2 := by
  induction options generalizing i s with
  | nil => exact .refl s
  | cons option options ih =>
    have set := setSocketOption_told (option s.protocol) (answers i) s
    unfold replayOptions
    split
    next t eq => rwa [eq] at set
    next t eq =>
      rw [eq] at set
      exact set.trans (ih (i + 1) t)

theorem openDescriptor_told (interfaceName : String) (env : ConnectEnv) (s : Socket) :
    (∃ e, env.socket = .error e ∧ (s.openDescriptor Slot.idle interfaceName env).1 = false ∧
      Told { s with descriptor := -1 } (s.openDescriptor Slot.idle interfaceName env).2) ∨
    ∃ descriptor, env.socket = .ok descriptor ∧
      Told (({ s with descriptor := descriptor }).log (.opened descriptor))
        (s.openDescriptor Slot.idle interfaceName env).2 := by
  unfold openDescriptor
  dsimp only
  split
  next e eq => exact Or.inl ⟨e, eq, rfl, setSystemError_told e _⟩
  next descriptor eq =>
    refine Or.inr ⟨descriptor, eq, ?_⟩
    have replayed := replayOptions_told env.setsockopt (connectOptions env) 0
      (({ s with descriptor := descriptor }).log (.opened descriptor))
    split
    next => exact setSystemError_told _ _
    next =>
      split
      next => exact setSystemError_told _ _
      next =>
        split
        next t eq => rwa [eq] at replayed
        next t eq =>
          rw [eq] at replayed
          have bound : ∀ answer, Told t (t.log (.bind t.descriptor s.protocol.bindIds answer)) :=
            fun _ => log_told rfl t
          split
          next e _ => exact (replayed.trans (bound _)).trans (setSystemError_told e _)
          next => exact replayed.trans (bound _)

end Socket

/-- No trace of a connection is left. -/
structure TornDown (s : Socket) : Prop where
  descriptor : s.descriptor = -1
  readNotifier : s.readNotifier = none
  writeNotifier : s.writeNotifier = none
  pendingBytesWritten : s.pendingBytesWritten = 0
  writeSequenceStarted : s.writeSequenceStarted = false
  interfaceName : s.interfaceName = ""
  openSockets : openSockets s.trace = some []

/-- The one kernel socket that is open is the descriptor of the object, if it has one. -/
def HoldsDescriptor (s : Socket) : Prop :=
  (s.descriptor = -1 ∧ openSockets s.trace = some []) ∨
    0 < s.descriptor ∧ openSockets s.trace = some [s.descriptor]

theorem HoldsDescriptor.same {s t : Socket} (h : HoldsDescriptor s) (same : t.linkView = s.linkView) :
    HoldsDescriptor t := by
  have descriptor : t.descriptor = s.descriptor := congrArg LinkView.descriptor same
  unfold HoldsDescriptor at h ⊢
  rwa [descriptor, Socket.openSockets_of_linkView same]

/-- A held descriptor is passed to `::close`, and to it only, whatever `::close` answers. -/
theorem HoldsDescriptor.torn_down {s : Socket} (h : HoldsDescriptor s) (answer : Option Errno) :
    TornDown (s.closeDescriptor Slot.idle answer) := by
  refine ⟨rfl, ?_, ?_, rfl, rfl, rfl, ?_⟩
  all_goals unfold Socket.closeDescriptor; dsimp only
  · split
    next => cases answer <;> rfl
    next => rfl
  · split
    next => cases answer <;> rfl
    next => rfl
  · rcases h with ⟨none, table⟩ | ⟨positive, table⟩
    · rw [if_neg (by omega)]
      exact table
    · rw [if_pos positive]
      have release : (Event.closed s.descriptor).act = some (.release s.descriptor) := rfl
      have closed : openSockets (s.trace ++ [.closed s.descriptor]) = some [] := held_release release table
      cases answer with
      | none => exact closed
      | some e =>
        exact (Socket.openSockets_of_linkView
          (Socket.linkView_of_downView (Socket.downView_setSystemError e _))).trans closed

/-- What holds between the calls of a run: the object is connected, or torn down. -/
structure Settled (s : Socket) : Prop where
  link : s.state = .unconnectedState ∧ s.openMode = .notOpen ∧ TornDown s ∨
    s.state = .connectedState ∧ 0 < s.descriptor ∧ openSockets s.trace = some [s.descriptor]
  emittedReadyRead : s.emittedReadyRead = false
  emittedBytesWritten : s.emittedBytesWritten = false

theorem TornDown.same {s t : Socket} (h : TornDown s) (same : t.downView = s.downView) : TornDown t where
  descriptor := (congrArg (fun v => v.descriptor) same).trans h.descriptor
  readNotifier := by
    have reading : t.readNotifier.isSome = s.readNotifier.isSome := congrArg DownView.reading same
    simpa [h.readNotifier] using reading
  writeNotifier := (congrArg DownView.writeNotifier same).trans h.writeNotifier
  pendingBytesWritten := (congrArg DownView.pendingBytesWritten same).trans h.pendingBytesWritten
  writeSequenceStarted := (congrArg DownView.writeSequenceStarted same).trans h.writeSequenceStarted
  interfaceName := (congrArg (fun v => v.interfaceName) same).trans h.interfaceName
  openSockets :=
    (Socket.openSockets_of_linkView (Socket.linkView_of_downView same)).trans h.openSockets

theorem Settled.same {s t : Socket} (h : Settled s) (same : t.linkView = s.linkView)
    (down : TornDown s → TornDown t) : Settled t := by
  have state : t.state = s.state := congrArg LinkView.state same
  have mode : t.openMode = s.openMode := congrArg LinkView.openMode same
  have descriptor : t.descriptor = s.descriptor := congrArg LinkView.descriptor same
  refine ⟨?_, (congrArg LinkView.emittedReadyRead same).trans h.emittedReadyRead,
    (congrArg LinkView.emittedBytesWritten same).trans h.emittedBytesWritten⟩
  rw [state, mode, descriptor, Socket.openSockets_of_linkView same]
  exact h.link.imp_left fun ⟨unconnected, closed, before⟩ => ⟨unconnected, closed, down before⟩

theorem Settled.sameDown {s t : Socket} (h : Settled s) (same : t.downView = s.downView) : Settled t :=
  h.same (Socket.linkView_of_downView same) fun down => down.same same

theorem Settled.sameLink {s t : Socket} (h : Settled s) (connected : s.state = .connectedState)
    (same : t.linkView = s.linkView) : Settled t := by
  refine h.same same fun down => ?_
  rcases h.link with ⟨unconnected, _⟩ | ⟨_, positive, _⟩
  · rw [connected] at unconnected
    cases unconnected
  · have := down.descriptor
    omega

theorem setSocketState_told (socketState : SocketState) (s : Socket) :
    Told { s with state := socketState } (s.setSocketState Slot.idle socketState) := by
  unfold Socket.setSocketState
  split
  next => exact Socket.log_told rfl _
  next => exact .refl _

theorem closeDescriptor_rest (answer : Option Errno) (s : Socket) :
    (s.closeDescriptor Slot.idle answer).openMode = s.openMode ∧
      (s.closeDescriptor Slot.idle answer).emittedReadyRead = s.emittedReadyRead ∧
      (s.closeDescriptor Slot.idle answer).emittedBytesWritten = s.emittedBytesWritten := by
  unfold Socket.closeDescriptor
  dsimp only
  split
  next => cases answer <;> exact ⟨rfl, rfl, rfl⟩
  next => exact ⟨rfl, rfl, rfl⟩

theorem close_settled {s : Socket} (connection : s.state ≠ .unconnectedState) (h : HoldsDescriptor s)
    (reading : s.emittedReadyRead = false) (writing : s.emittedBytesWritten = false)
    (answer : Option Errno) : Settled (s.close Slot.idle answer) := by
  have closing := (setSocketState_told .closingState
    { s with openMode := .notOpen, buffer := [], errorString := .text "" }).linkView
  unfold Socket.close
  rw [if_neg connection]
  dsimp only
  generalize ({ s with openMode := .notOpen, buffer := [], errorString := .text "" } : Socket).setSocketState
    Slot.idle .closingState = t at closing ⊢
  have held : HoldsDescriptor t := by
    have descriptor : t.descriptor = s.descriptor := congrArg LinkView.descriptor closing
    have table := Socket.openSockets_of_linkView closing
    unfold HoldsDescriptor at h ⊢
    rwa [descriptor, table]
  have shut : t.openMode = .notOpen := congrArg LinkView.openMode closing
  have readOff : t.emittedReadyRead = false := (congrArg LinkView.emittedReadyRead closing).trans reading
  have writeOff : t.emittedBytesWritten = false :=
    (congrArg LinkView.emittedBytesWritten closing).trans writing
  obtain ⟨mode, readKept, writeKept⟩ := closeDescriptor_rest answer t
  have down : TornDown { t.closeDescriptor Slot.idle answer with state := .unconnectedState } := by
    obtain ⟨h1, h2, h3, h4, h5, h6, h7⟩ := held.torn_down answer
    exact ⟨h1, h2, h3, h4, h5, h6, h7⟩
  have settled : Settled { t.closeDescriptor Slot.idle answer with state := .unconnectedState } :=
    ⟨Or.inl ⟨rfl, mode.trans shut, down⟩, readKept.trans readOff, writeKept.trans writeOff⟩
  exact settled.sameDown (setSocketState_told .unconnectedState _).downView

/-- A connection on its way: all is as a teardown left it but the descriptor that was opened. -/
structure Opening (mode : OpenMode) (s t : Socket) : Prop where
  state : t.state = .connectingState
  openMode : t.openMode = mode
  buffer : t.buffer = []
  writeBuffer : t.writeBuffer = []
  readNotifier : t.readNotifier = none
  writeNotifier : t.writeNotifier = none
  pendingBytesWritten : t.pendingBytesWritten = 0
  writeSequenceStarted : t.writeSequenceStarted = false
  emittedReadyRead : t.emittedReadyRead = s.emittedReadyRead
  emittedBytesWritten : t.emittedBytesWritten = s.emittedBytesWritten
  holds : HoldsDescriptor t

theorem Opening.told {mode : OpenMode} {s t u : Socket} (h : Opening mode s t) (told : Told t u) :
    Opening mode s u := by
  have holds := h.holds.same told.linkView
  obtain ⟨_, _, _, _, _, rfl, _⟩ := told
  exact ⟨h.state, h.openMode, h.buffer, h.writeBuffer, h.readNotifier, h.writeNotifier,
    h.pendingBytesWritten, h.writeSequenceStarted, h.emittedReadyRead, h.emittedBytesWritten, holds⟩

theorem openDescriptor_opening {mode : OpenMode} {s t : Socket} (h : Opening mode s t) (none : t.descriptor = -1)
    {env : ConnectEnv} (positive : env.socket ≠ .ok 0) (interfaceName : String) :
    Opening mode s (t.openDescriptor Slot.idle interfaceName env).2 ∧
      ((t.openDescriptor Slot.idle interfaceName env).1 = true →
        0 < (t.openDescriptor Slot.idle interfaceName env).2.descriptor) := by
  have table : openSockets t.trace = some [] := by
    rcases h.holds with ⟨_, table⟩ | ⟨positive, _⟩
    · exact table
    · omega
  rcases t.openDescriptor_told interfaceName env with ⟨e, _, failed, told⟩ | ⟨descriptor, eq, told⟩
  · refine ⟨Opening.told ?_ told, fun ok => ?_⟩
    · exact ⟨h.state, h.openMode, h.buffer, h.writeBuffer, h.readNotifier, h.writeNotifier,
        h.pendingBytesWritten, h.writeSequenceStarted, h.emittedReadyRead, h.emittedBytesWritten,
        Or.inl ⟨rfl, table⟩⟩
    · rw [failed] at ok
      cases ok
  · have above : (0 : Int) < descriptor := by
      have : descriptor ≠ 0 := by
        rintro rfl
        exact positive eq
      omega
    have acquire : (Event.opened descriptor).act = some (.acquire (descriptor : Int)) := rfl
    have opened : openSockets (t.trace ++ [.opened descriptor]) = some [(descriptor : Int)] :=
      held_acquire acquire table
    refine ⟨Opening.told ?_ told, fun _ => ?_⟩
    · exact ⟨h.state, h.openMode, h.buffer, h.writeBuffer, h.readNotifier, h.writeNotifier,
        h.pendingBytesWritten, h.writeSequenceStarted, h.emittedReadyRead, h.emittedBytesWritten,
        Or.inr ⟨above, opened⟩⟩
    · have kept : (t.openDescriptor Slot.idle interfaceName env).2.descriptor = descriptor :=
        congrArg LinkView.descriptor told.linkView
      rwa [kept]

theorem Opening.connected {mode : OpenMode} {s t : Socket} (h : Opening mode s t) (settled : Settled s)
    (positive : 0 < t.descriptor) :
    let u := (if mode.readOnly then t.setReadNotificationEnabled true else t).setSocketState Slot.idle
      .connectedState
    Settled u ∧ JustConnected { u with trace := [] } := by
  have reading : ∃ made : Option Notifier × List (Nat × Int),
      (if mode.readOnly then t.setReadNotificationEnabled true else t) =
        { t with readNotifier := made.1, watched := made.2 } ∧
        (if mode.readOnly then t.setReadNotificationEnabled true else t).isReadNotificationEnabled =
          mode.readOnly := by
    cases mode.readOnly with
    | true =>
      obtain ⟨made, eq⟩ := t.setRead_eq true
      exact ⟨made, eq, t.setRead_isRead true⟩
    | false => exact ⟨(t.readNotifier, t.watched), rfl, by simp [Socket.isReadNotificationEnabled, h.readNotifier]⟩
  obtain ⟨made, eq, enabled⟩ := reading
  have told := setSocketState_told .connectedState { t with readNotifier := made.1, watched := made.2 }
  have table : openSockets t.trace = some [t.descriptor] := by
    rcases h.holds with ⟨none, _⟩ | ⟨_, table⟩
    · omega
    · exact table
  rw [eq] at enabled ⊢
  have link : Settled { t with readNotifier := made.1, watched := made.2, state := .connectedState } :=
    ⟨Or.inr ⟨rfl, positive, table⟩, h.emittedReadyRead.trans settled.emittedReadyRead,
      h.emittedBytesWritten.trans settled.emittedBytesWritten⟩
  refine ⟨link.sameDown told.downView, ?_⟩
  generalize ({ t with readNotifier := made.1, watched := made.2 } : Socket).setSocketState Slot.idle .connectedState = u
    at told ⊢
  obtain ⟨_, _, _, _, _, rfl, _⟩ := told
  exact ⟨rfl, h.buffer, h.writeBuffer, enabled.trans (congrArg OpenMode.readOnly h.openMode).symm,
    h.writeNotifier, link.emittedReadyRead, link.emittedBytesWritten, h.pendingBytesWritten,
    h.writeSequenceStarted, rfl⟩

theorem connect_cases {s : Socket} (h : Settled s) {env : ConnectEnv} (positive : env.socket ≠ .ok 0)
    (interfaceName : String) (mode : OpenMode) :
    Settled (s.connectToInterface Slot.idle interfaceName mode env).2 ∧
      ((s.connectToInterface Slot.idle interfaceName mode env).1 = true →
        JustConnected { (s.connectToInterface Slot.idle interfaceName mode env).2 with trace := [] }) := by
  unfold Socket.connectToInterface
  split
  next => exact ⟨h.sameDown (Socket.downView_setError _ s), fun ok => by cases ok⟩
  next unconnected =>
    split
    next => exact ⟨h.sameDown (Socket.downView_setError _ s), fun ok => by cases ok⟩
    next =>
      have down : TornDown s := by
        rcases h.link with ⟨_, _, down⟩ | ⟨state, _⟩
        · exact down
        · exact absurd (by rw [state]; decide) unconnected
      have told := setSocketState_told .connectingState { s with
        interfaceName := interfaceName
        state := .unconnectedState
        buffer := []
        writeBuffer := []
        openMode := mode }
      dsimp only
      generalize Socket.setSocketState Slot.idle .connectingState _ = t at told ⊢
      have begun : Opening mode s t := by
        refine Opening.told ?_ told
        exact ⟨rfl, rfl, rfl, rfl, down.readNotifier, down.writeNotifier, down.pendingBytesWritten,
          down.writeSequenceStarted, rfl, rfl, Or.inl ⟨down.descriptor, down.openSockets⟩⟩
      have none : t.descriptor = -1 := (congrArg LinkView.descriptor told.linkView).trans down.descriptor
      obtain ⟨opening, granted⟩ := openDescriptor_opening begun none positive interfaceName
      generalize t.openDescriptor Slot.idle interfaceName env = r at opening granted ⊢
      obtain ⟨ok, u⟩ := r
      cases ok with
      | true =>
        obtain ⟨settled, fresh⟩ := opening.connected h (granted rfl)
        exact ⟨settled, fun _ => fresh⟩
      | false =>
        refine ⟨close_settled ?_ opening.holds (opening.emittedReadyRead.trans h.emittedReadyRead)
          (opening.emittedBytesWritten.trans h.emittedBytesWritten) env.close, fun ok => by cases ok⟩
        rw [opening.state]
        decide

/-- When `::socket` does not return 0, and `flush` is not called on an unconnected raw socket
whose next block is shorter than a frame. -/
def Call.TearsDown (c : Call) (s : Socket) : Prop :=
  match c with
  | .connectToInterface _ _ env => env.socket ≠ .ok 0
  | .flush env => s.state = .unconnectedState → ∀ options, s.protocol = .raw options →
      s.nextDataBlock env = [] ∨ frameSize options.flexibleDataRateFrames ≤ (s.nextDataBlock env).length
  | _ => True

theorem writeToSocket_refused {p : Protocol} {data : List UInt8}
    (long : ∀ options, p = .raw options → frameSize options.flexibleDataRateFrames ≤ data.length) :
    (p.writeToSocket data [.fail .EBADF]).ret < 0 := by
  cases p with
  | isoTp fields => exact (by decide : (-1 : Int) < 0)
  | raw options =>
    have room := long options rfl
    unfold Protocol.writeToSocket rawWriteToSocket
    dsimp only
    cases writePass options.flexibleDataRateFrames data [.fail .EBADF] 0 with
    | short less _ _ => omega
    | malformed _ _ ret _ => omega
    | refused e _ _ answer ret _ =>
      have : e = .EBADF := by simpa [answerAt] using answer.symm
      simp [ret, this]
    | nothing _ _ accepts _ _ _ => exact absurd rfl (accepts .EBADF)
    | odd _ _ taken _ _ _ => exact absurd rfl taken
    | next answer rest eq _ _ accepts _ _ _ =>
      cases eq
      exact absurd rfl (accepts .EBADF)

theorem downView_flush {s : Socket} (down : TornDown s) {env : WriteEnv}
    (long : ∀ options, s.protocol = .raw options →
      s.nextDataBlock env = [] ∨ frameSize options.flexibleDataRateFrames ≤ (s.nextDataBlock env).length) :
    (s.completeAsyncWrite Slot.idle env).2.downView = s.downView := by
  have silent : s.emitBytesWritten Slot.idle = s := by
    unfold Socket.emitBytesWritten
    rw [if_neg (by simp [down.pendingBytesWritten])]
  have same : s.announced Slot.idle = s := by
    rw [Socket.announced, silent, ← down.writeSequenceStarted]
  rcases s.completeAsyncWrite_cases Slot.idle env with ⟨_, eq⟩ | ⟨waiting, eq⟩
  · rw [eq, same, Socket.setWriteNotificationEnabled, down.writeNotifier]
    rfl
  · rw [eq, same]
    rw [same] at waiting
    have block := Socket.nextDataBlock_ne_nil env waiting
    have refused : (s.writeResult env).ret < 0 := by
      rw [Socket.writeResult, Socket.writeAnswers, if_pos down.descriptor]
      exact writeToSocket_refused fun options raw => (long options raw).resolve_left block
    rcases s.startAsyncWrite_cases Slot.idle env waiting down.writeSequenceStarted with
      ⟨info, _, eq⟩ | ⟨n, _, ret, _⟩
    · rw [eq]
      exact (Socket.downView_setError info _).trans (s.downView_sendBlock env)
    · omega

theorem step_unconnected {c : Call} (on : c.OnConnection) {s : Socket} (safe : c.TearsDown s)
    (state : s.state = .unconnectedState) (mode : s.openMode = .notOpen) (down : TornDown s) :
    (s.step c).downView = s.downView := by
  have shut : s.openMode.readOnly = false ∧ s.openMode.writeOnly = false := by
    rw [mode]
    decide
  cases c with
  | connectToInterface => exact on.elim
  | close => exact on.elim
  | setSocketOption => exact on.elim
  | setReadBufferSize size => exact s.downView_setReadBufferSize size
  | readNotification answers => exact s.downView_readNotification answers
  | flush env => exact downView_flush down (safe state)
  | write data => simp [Socket.step, Socket.exec, Socket.writeDevice, shut]
  | read maxSize => simp [Socket.step, Socket.exec, Socket.readDevice, shut]
  | waitForReadyRead msecs rounds =>
    simp [Socket.step, Socket.exec, Socket.waitForReadyRead, state]
  | waitForBytesWritten msecs rounds =>
    simp [Socket.step, Socket.exec, Socket.waitForBytesWritten, state]
  | writeNotification env =>
    simp [Socket.step, Socket.exec, Socket.isWriteNotificationEnabled, down.writeNotifier]

/-- Every call leaves the object connected or torn down. -/
theorem step_settled (c : Call) (s : Socket) (safe : c.TearsDown s) (h : Settled s) : Settled (s.step c) := by
  have connection : c.OnConnection → Settled (s.step c) := by
    intro on
    rcases h.link with ⟨state, mode, down⟩ | ⟨state, _⟩
    · exact h.sameDown (step_unconnected on safe state mode down)
    · exact h.sameLink state (linkView_partsKeep.exec on (fun _ _ => trivial) s)
  cases c with
  | connectToInterface interfaceName mode env => exact (connect_cases h safe interfaceName mode).1
  | close answer =>
    rcases h.link with ⟨state, _⟩ | ⟨state, positive, table⟩
    · simpa [Socket.step, Socket.exec, Socket.close, state] using h
    · exact close_settled (by rw [state]; decide) (Or.inr ⟨positive, table⟩) h.emittedReadyRead
        h.emittedBytesWritten answer
  | setSocketOption option answer =>
    exact h.sameDown (Socket.setSocketOption_told option answer s).downView
  | _ => exact connection trivial

theorem create_settled (protocol : Protocol) : Settled (Socket.create protocol) :=
  ⟨Or.inl ⟨rfl, rfl, rfl, rfl, rfl, rfl, rfl, rfl, rfl⟩, rfl, rfl⟩

/-- In every run of public calls in which `::socket` never returns 0 and no unconnected raw
socket flushes less than a frame: an unconnected object is torn down and has passed every
kernel socket it opened to `::close` once; a connected one holds exactly its descriptor. -/
theorem unconnected_torn_down (protocol : Protocol) {calls : List Call}
    (guarded : CallRun.Guarded Socket.step Call.TearsDown calls (.create protocol)) :
    let s := CallRun.run Socket.step calls (.create protocol)
    (s.state = .unconnectedState → TornDown s) ∧
      (s.state = .connectedState → openSockets s.trace = some [s.descriptor]) := by
  intro s
  have settled : Settled s := CallRun.run_invariant step_settled guarded (create_settled protocol)
  rcases settled.link with ⟨state, _, down⟩ | ⟨state, _, table⟩
  · exact ⟨fun _ => down, fun other => absurd (state.symm.trans other) (by decide)⟩
  · exact ⟨fun other => absurd (state.symm.trans other) (by decide), fun _ => table⟩

theorem unconnected_torn_down_bind :
    let s := CallRun.run Socket.step [
      .connectToInterface "can0" .readWrite { socket := .ok 5, bind := some .ENODEV },
      .connectToInterface "can0" .readWrite (.granting 5), .write twoFrames, .close none] (.create (.raw {}))
    (s.state = .unconnectedState → TornDown s) ∧
      (s.state = .connectedState → openSockets s.trace = some [s.descriptor]) :=
  unconnected_torn_down (.raw {}) ⟨nofun, nofun, trivial, trivial, trivial⟩

/-- Descriptor 0 is taken for none and never passed to `::close`. -/
theorem unconnected_torn_down_fails :
    let s := CallRun.run Socket.step [.connectToInterface "can0" .readWrite (.granting 0), .close none]
      (.create (.raw {}))
    s.state = .unconnectedState ∧ openSockets s.trace = some [0] ∧ ¬TornDown s := by
  intro s
  have left : openSockets s.trace = some [0] := by decide
  refine ⟨by decide, left, fun down => ?_⟩
  rw [down.openSockets] at left
  cases left

end CanSocket
