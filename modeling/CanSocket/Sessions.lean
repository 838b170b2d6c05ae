import CanSocket.History
import CanSocket.Moves

namespace CanSocket

open History

/-- One connection as its write side sees it: what was queued, how much of that was let go of, what the kernel took,
and whether no call of `writeToSocket` failed when the kernel had already taken something of its block. -/
structure Session where
  queued : List UInt8 := []
  freed : Nat := 0
  taken : List UInt8 := []
  clean : Bool := true
deriving DecidableEq, Repr

def Session.waiting (session : Session) : List UInt8 := session.queued.drop session.freed

def WriteResult.clean (r : WriteResult) : Bool := 0 ≤ r.ret || acceptedBytes r.calls = []

/-- A connect begins a new session, as an object of the class `p` writes. -/
def Session.after (p : Protocol) (session : Session) : Event → Session
  | .signal (.stateChanged .connectingState) => {}
  | .queued data => { session with queued := session.queued ++ data }
  | .writeToSocket _ block answers =>
    { session with clean := session.clean && (p.writeToSocket block answers).clean }
  | .write _ call => { session with taken := session.taken ++ call.answer.taken call.bytes }
  | .freed bytes => { session with freed := session.freed + bytes.toNat }
  | _ => session

def session (p : Protocol) (trace : List Event) : Session := trace.foldl (Session.after p) {}

/-- A block is a front part of what waits in the session, and what is let go of is what the kernel took. -/
def FromSession (p : Protocol) (before : List Event) (e : Event) : Prop :=
  match e with
  | .writeToSocket _ block _ => block ≠ [] ∧ block <+: (session p before).waiting
  | .freed bytes => (session p before).freed + bytes.toNat ≤ (session p before).queued.length ∧
      ((session p before).clean = true →
        (session p before).taken = (session p before).queued.take ((session p before).freed + bytes.toNat))
  | _ => True

/-- What the write buffer holds is what waits in the session of the trace. -/
structure InSession (p : Protocol) (s : Socket) : Prop where
  writes : s.protocol.writeToSocket = p.writeToSocket
  waiting : s.writeBuffer = (session p s.trace).waiting
  inside : (session p s.trace).freed ≤ (session p s.trace).queued.length
  taken : (session p s.trace).clean = true →
    (session p s.trace).taken = (session p s.trace).queued.take (session p s.trace).freed
  each : EachAfter (FromSession p) s.trace

variable {p : Protocol} {s t : Socket}

@[simp] theorem session_concat (trace : List Event) (e : Event) :
    session p (trace ++ [e]) = (session p trace).after p e := by
  simp [session]

/-- Events the write side of a session does not hear of. -/
def Event.besidesSession : Event → Bool
  | .queued _ => false
  | .writeToSocket .. => false
  | .write .. => false
  | .freed _ => false
  | .signal (.stateChanged .connectingState) => false
  | _ => true

theorem Session.after_besides {e : Event} (besides : e.besidesSession = true) (session : Session) :
    session.after p e = session := by
  unfold after
  split <;> first | rfl | cases besides

theorem fromSession_besides {e : Event} (besides : e.besidesSession = true) (before : List Event) :
    FromSession p before e := by
  cases e <;> trivial

theorem session_besides {events : List Event} (besides : ∀ e ∈ events, e.besidesSession = true) (trace : List Event) :
    session p (trace ++ events) = session p trace := by
  induction events using List.reverseRecOn with
  | nil => rw [List.append_nil]
  | append_singleton events last ih =>
    rw [← List.append_assoc, session_concat, ih fun e mem => besides e (by simp [mem]),
      Session.after_besides (besides last (by simp))]

theorem session_writes (descriptor : Int) (calls : List WriteCall) (trace : List Event) :
    session p (trace ++ calls.map (Event.write descriptor)) =
      { session p trace with taken := (session p trace).taken ++ acceptedBytes calls } := by
  induction calls generalizing trace with
  | nil => simp
  | cons call calls ih =>
    rw [List.map_cons, ← List.singleton_append, ← List.append_assoc, ih, session_concat]
    simp [Session.after]

namespace InSession

theorem create (p : Protocol) : InSession p (.create p) :=
  ⟨rfl, rfl, Nat.le_refl _, fun _ => rfl, eachAfter_nil⟩

theorem besides (h : InSession p s) {events : List Event} (trace : t.trace = s.trace ++ events)
    (writes : t.protocol.writeToSocket = s.protocol.writeToSocket) (writeBuffer : t.writeBuffer = s.writeBuffer)
    (besides : ∀ e ∈ events, e.besidesSession = true) : InSession p t := by
  have same : session p t.trace = session p s.trace := by rw [trace, session_besides besides]
  refine ⟨writes.trans h.writes, ?_, ?_, ?_, ?_⟩
  · rw [writeBuffer, same]
    exact h.waiting
  · rw [same]
    exact h.inside
  · rw [same]
    exact h.taken
  · rw [trace]
    exact h.each.append_all fun e mem before => fromSession_besides (besides e mem) before

theorem queued (h : InSession p s) (data : List UInt8) :
    InSession p (({ s with writeBuffer := s.writeBuffer ++ data }).log (.queued data)) := by
  have now : session p (s.trace ++ [.queued data]) =
      { session p s.trace with queued := (session p s.trace).queued ++ data } := session_concat ..
  have inside := h.inside
  refine ⟨h.writes, ?_, ?_, ?_, (eachAfter_concat _ _).mpr ⟨h.each, trivial⟩⟩
  · show s.writeBuffer ++ data = _
    rw [Socket.log, now, Session.waiting, List.drop_append_of_le_length inside, h.waiting]
    rfl
  · rw [Socket.log, now, List.length_append]
    exact Nat.le_add_right_of_le inside
  · rw [Socket.log, now, List.take_append_of_le_length inside]
    exact h.taken

/-- What a call of `writeToSocket` adds to the session before anything is let go of. -/
theorem sendBlock (h : InSession p s) (env : WriteEnv) (waiting : s.writeBuffer ≠ []) :
    session p (s.sendBlock env).trace = { session p s.trace with
        clean := (session p s.trace).clean && (s.writeResult env).clean
        taken := (session p s.trace).taken ++ acceptedBytes (s.writeResult env).calls } ∧
      EachAfter (FromSession p) (s.sendBlock env).trace := by
  have offered : s.trace ++ [Event.writeToSocket s.emittedBytesWritten (s.nextDataBlock env)
      (s.writeAnswers env.answers)] ++ (s.writeResult env).calls.map (Event.write s.descriptor) =
      (s.sendBlock env).trace := List.append_assoc ..
  have result : p.writeToSocket (s.nextDataBlock env) (s.writeAnswers env.answers) = s.writeResult env := by
    rw [← h.writes]
    rfl
  rw [← offered]
  constructor
  · rw [session_writes, session_concat, Session.after, result]
  · refine EachAfter.append_all ((eachAfter_concat _ _).mpr ⟨h.each, ?_⟩) ?_
    · refine ⟨s.nextDataBlock_ne_nil env waiting, ?_⟩
      rw [← h.waiting]
      exact List.take_prefix _ _
    · intro e mem before
      obtain ⟨call, _, rfl⟩ := List.mem_map.mp mem
      trivial

theorem failed (h : InSession p s) {env : WriteEnv} (waiting : s.writeBuffer ≠ [])
    (ret : (s.writeResult env).ret < 0) : InSession p (s.sendBlock env) := by
  obtain ⟨now, each⟩ := h.sendBlock env waiting
  refine ⟨h.writes, ?_, ?_, ?_, each⟩
  · rw [now]
    exact h.waiting
  · rw [now]
    exact h.inside
  · rw [now]
    intro clean
    obtain ⟨before, none⟩ := (Bool.and_eq_true_iff).mp clean
    have nothing : acceptedBytes (s.writeResult env).calls = [] := by
      simpa [WriteResult.clean, Int.not_le.mpr ret] using none
    dsimp only
    rw [nothing, List.append_nil]
    exact h.taken before

theorem sent (h : InSession p s) {env : WriteEnv} {n : Nat} (waiting : s.writeBuffer ≠ [])
    (inside : n ≤ (s.nextDataBlock env).length)
    (taken : acceptedBytes (s.writeResult env).calls = (s.nextDataBlock env).take n) :
    InSession p ((s.sendBlock env).freeWritten n) := by
  obtain ⟨sent, each⟩ := h.sendBlock env waiting
  have front := Socket.nextDataBlock_take inside
  have room : n ≤ s.writeBuffer.length := by
    rw [Socket.nextDataBlock, List.length_take] at inside
    omega
  have now : session p ((s.sendBlock env).trace ++ [.freed n]) =
      (session p (s.sendBlock env).trace).after p (.freed n) := session_concat ..
  rw [h.waiting, Session.waiting] at front room
  have some : (session p s.trace).freed + n ≤ (session p s.trace).queued.length := by
    have := h.inside
    rw [List.length_drop] at room
    omega
  have all : ((session p s.trace).clean && (s.writeResult env).clean) = true →
      (session p s.trace).taken ++ acceptedBytes (s.writeResult env).calls =
        (session p s.trace).queued.take ((session p s.trace).freed + n) := by
    intro clean
    rw [h.taken ((Bool.and_eq_true_iff).mp clean).1, taken, front, List.take_add]
  refine ⟨h.writes, ?_, ?_, ?_, (eachAfter_concat _ _).mpr ⟨each, ?_⟩⟩
  · show s.writeBuffer.drop n = _
    rw [Socket.freeWritten, Socket.log, now, sent, h.waiting]
    simp [Session.after, Session.waiting, Nat.add_comm]
  · rw [Socket.freeWritten, Socket.log, now, sent]
    exact some
  · rw [Socket.freeWritten, Socket.log, now, sent]
    exact all
  · rw [FromSession, sent]
    exact ⟨some, all⟩

end InSession

theorem Protocol.writeToSocket_assigned (p : Protocol) (option : SocketOption) :
    (p.assigned option).writeToSocket = p.writeToSocket := by
  cases p <;> cases option <;> rfl

theorem Protocol.writeToSocket_released (p : Protocol) (option : SocketOption) :
    (p.released option).writeToSocket = p.writeToSocket := by
  cases p <;> cases option <;> rfl

namespace InSession

theorem move (m : Move s t) (h : InSession p s) : InSession p t := by
  cases m with
  | silent same =>
    have trace : t.trace = s.trace := congrArg PublicView.trace same
    have protocol : t.protocol = s.protocol := congrArg PublicView.protocol same
    exact h.besides (by rw [trace, List.append_nil]) (by rw [protocol]) (congrArg PublicView.writeBuffer same) (by simp)
  | passed e passing =>
    refine h.besides rfl rfl rfl fun e' mem => ?_
    rw [List.mem_singleton.mp mem]
    cases e <;> first | rfl | cases passing
  | queued data _ => exact h.queued data
  | failed env waiting ret => exact h.failed waiting ret
  | sent env n waiting _ inside taken => exact h.sent waiting inside taken
  | filled answers bytesToRead =>
    refine h.besides rfl rfl rfl ?_
    simp [Event.besidesSession]
  | errored info =>
    refine h.besides rfl rfl rfl ?_
    simp [Event.besidesSession]
  | stored option sig differs changed =>
    refine h.besides rfl (Protocol.writeToSocket_assigned ..) rfl fun e mem => ?_
    rw [List.mem_singleton.mp mem]
    cases option <;> cases changed <;> rfl
  | released option =>
    exact h.besides (List.append_nil _).symm (Protocol.writeToSocket_released ..) rfl (by simp)
  | detached => exact h.besides (List.append_nil _).symm rfl rfl (by simp)

end InSession

theorem inSession (p : Protocol) : StatesKeep fun s t => InSession p s → InSession p t where
  toMovesKeep := by
    refine .of_unflagged (fun first second h => second (first h)) InSession.move ?_ ?_ ?_
    · intro s t same h
      obtain ⟨_, _, protocol, writeBuffer, trace⟩ : t.state = s.state ∧ t.error = s.error ∧ t.protocol = s.protocol ∧
          t.writeBuffer = s.writeBuffer ∧ t.trace = s.trace := by
        simpa using same
      exact h.besides (by rw [trace, List.append_nil]) (by rw [protocol]) writeBuffer (by simp)
    · exact fun s h => h.besides rfl rfl rfl (by simp [Event.besidesSession])
    · exact fun n s h => h.besides rfl rfl rfl (by simp [Event.besidesSession])
  started interfaceName mode s _ h := by
    have now : session p (s.trace ++ [.signal (.stateChanged .connectingState)]) = {} := session_concat ..
    refine ⟨h.writes, ?_, ?_, ?_, (eachAfter_concat _ _).mpr ⟨h.each, trivial⟩⟩
    · rw [Socket.log, now]
      rfl
    · rw [Socket.log, now]
      exact Nat.le_refl 0
    · rw [Socket.log, now]
      exact fun _ => rfl
  entered {state s} _ settled h := by
    refine h.besides rfl rfl rfl fun e mem => ?_
    rw [List.mem_singleton.mp mem]
    cases state <;> first | rfl | exact absurd rfl settled

/-- A write of a datagram socket that fails has taken nothing. -/
theorem isoTpWriteToSocket_clean (data : List UInt8) (answers : List WriteAnswer) :
    (isoTpWriteToSocket data answers).clean = true := by
  induction answers with
  | nil => simp [isoTpWriteToSocket, WriteResult.clean, WriteAnswer.taken]
  | cons answer answers ih =>
    cases answer with
    | fail e =>
      by_cases interrupted : e = .EINTR
      · simpa [isoTpWriteToSocket, interrupted, WriteResult.clean, WriteAnswer.taken] using ih
      · simp [isoTpWriteToSocket, interrupted, WriteResult.clean, WriteAnswer.taken]
    | all => simp [isoTpWriteToSocket, WriteResult.clean]
    | count n => simp [isoTpWriteToSocket, WriteResult.clean]

theorem session_clean (f : CanIsoTpFields) (trace : List Event) : (session (.isoTp f) trace).clean = true := by
  induction trace using List.reverseRecOn with
  | nil => rfl
  | append_singleton trace e ih =>
    rw [session_concat]
    unfold Session.after
    split <;> first | rfl | exact ih | exact Bool.and_eq_true_iff.mpr ⟨ih, isoTpWriteToSocket_clean ..⟩

/-- In every run of the whole interface, of either class and with slots calling back to any depth: what a connection
hands to the kernel was queued in that connection and stands at the front of what waits there, a connect begins with
nothing waiting, and what the kernel took of the connection followed by the write buffer is what was queued in it, unless
a call of `writeToSocket` failed with part of its block taken, which a datagram socket knows nothing of. -/
theorem sessions_isolated (script : PublicScript) (protocol : Protocol) :
    let s := script.exec (.create protocol)
    s.writeBuffer = (session protocol s.trace).waiting ∧
      ((session protocol s.trace).clean = true →
        (session protocol s.trace).taken ++ s.writeBuffer = (session protocol s.trace).queued) ∧
      (∀ f, protocol = .isoTp f → (session protocol s.trace).clean = true) ∧
      EachAfter (FromSession protocol) s.trace := by
  intro s
  have reached : InSession protocol s := (inSession protocol).script script _ (.create protocol)
  refine ⟨reached.waiting, fun clean => ?_, fun f isoTp => isoTp ▸ session_clean f _, reached.each⟩
  rw [reached.taken clean, reached.waiting]
  exact List.take_append_drop _ _

end CanSocket
