import Mathlib.Algebra.BigOperators.Group.List.Basic
import Mathlib.Algebra.Ring.Int.Defs
import CanSocket.WriteSide

namespace CanSocket

def Event.emittedBytes : Event → Int
  | .signal (.bytesWritten bytes) => bytes
  | _ => 0

def Event.freedBytes : Event → Int
  | .freed bytes => bytes
  | _ => 0

/-- The amount a `writeToSocket` sends that is called from inside a `bytesWritten` emission. -/
def Event.insideBytes (p : Protocol) : Event → Int
  | .writeToSocket emitting block answers =>
    if emitting then max (p.writeToSocket block answers).ret 0 else 0
  | _ => 0

def total (amount : Event → Int) (trace : List Event) : Int := (trace.map amount).sum

@[simp] theorem total_nil (amount : Event → Int) : total amount [] = 0 := rfl

@[simp] theorem total_cons (amount : Event → Int) (e : Event) (trace : List Event) :
    total amount (e :: trace) = amount e + total amount trace := by
  simp [total]

@[simp] theorem total_append (amount : Event → Int) (before after : List Event) :
    total amount (before ++ after) = total amount before + total amount after := by
  simp [total]

theorem total_filter {amount : Event → Int} (side : ∀ e, e.onWriteSide = false → amount e = 0)
    (trace : List Event) : total amount (trace.filter Event.onWriteSide) = total amount trace := by
  induction trace with
  | nil => rfl
  | cons e trace ih =>
    cases h : e.onWriteSide with
    | true => simp [h, ih]
    | false => simp [h, ih, side e h]

theorem total_calls {amount : Event → Int} (none : ∀ d call, amount (.write d call) = 0)
    (descriptor : Int) (calls : List WriteCall) :
    total amount (calls.map (Event.write descriptor)) = 0 := by
  induction calls with
  | nil => rfl
  | cons call calls ih => simp [none, ih]

/-- Nothing has been sent from inside an emission if and only if no batch made there sent anything. -/
theorem total_inside (p : Protocol) (trace : List Event) :
    0 ≤ total (Event.insideBytes p) trace ∧ (total (Event.insideBytes p) trace = 0 ↔
      ∀ block answers, Event.writeToSocket true block answers ∈ trace →
        (p.writeToSocket block answers).ret ≤ 0) := by
  induction trace with
  | nil => simp
  | cons e trace ih =>
    obtain ⟨positive, none⟩ := ih
    have single : 0 ≤ e.insideBytes p ∧ (e.insideBytes p = 0 ↔
        ∀ block answers, e = .writeToSocket true block answers → (p.writeToSocket block answers).ret ≤ 0) := by
      cases e with
      | writeToSocket emitting block answers =>
        cases emitting with
        | true =>
          simp only [Event.insideBytes, if_true, Event.writeToSocket.injEq, true_and, and_imp,
            forall_eq', forall_apply_eq_imp_iff]
          omega
        | false => simp [Event.insideBytes]
      | _ => simp [Event.insideBytes]
    rw [total_cons]
    refine ⟨by omega, ?_⟩
    have both : e.insideBytes p + total (Event.insideBytes p) trace = 0 ↔
        e.insideBytes p = 0 ∧ total (Event.insideBytes p) trace = 0 := by omega
    rw [both, single.2, none]
    constructor
    · rintro ⟨here, later⟩ block answers mem
      rcases List.mem_cons.mp mem with eq | mem
      · exact here block answers eq.symm
      · exact later block answers mem
    · intro all
      exact ⟨fun block answers eq => all block answers (by simp [eq]),
        fun block answers mem => all block answers (by simp [mem])⟩

namespace Socket

def emittedTotal (s : Socket) : Int := total Event.emittedBytes s.trace
def freedTotal (s : Socket) : Int := total Event.freedBytes s.trace
def insideTotal (s : Socket) : Int := total (Event.insideBytes s.protocol) s.trace

end Socket

/-- Between two moments outside an emission the reported and the pending amount grow with the
freed one, less what was sent from inside emissions; inside an emission nothing is reported. -/
structure KeepsAccount (s t : Socket) : Prop where
  protocol : t.protocol = s.protocol
  emitting : t.emittedBytesWritten = s.emittedBytesWritten
  outside : s.emittedBytesWritten = false →
    t.emittedTotal + t.pendingBytesWritten + t.insideTotal - t.freedTotal =
      s.emittedTotal + s.pendingBytesWritten + s.insideTotal - s.freedTotal
  inside : s.emittedBytesWritten = true → t.emittedTotal = s.emittedTotal ∧
    t.pendingBytesWritten - s.pendingBytesWritten = t.freedTotal - s.freedTotal ∧
    t.insideTotal - s.insideTotal = t.freedTotal - s.freedTotal

theorem KeepsAccount.trans {s t u : Socket} (first : KeepsAccount s t) (second : KeepsAccount t u) :
    KeepsAccount s u := by
  refine ⟨second.protocol.trans first.protocol, second.emitting.trans first.emitting, ?_, ?_⟩
  · intro quiet
    have := first.outside quiet
    have := second.outside (first.emitting.trans quiet)
    omega
  · intro busy
    obtain ⟨_, _, _⟩ := first.inside busy
    obtain ⟨_, _, _⟩ := second.inside (first.emitting.trans busy)
    refine ⟨?_, ?_, ?_⟩ <;> omega

theorem KeepsAccount.of_steady {s t : Socket} (protocol : t.protocol = s.protocol)
    (emitting : t.emittedBytesWritten = s.emittedBytesWritten) {n : Int}
    (emitted : t.emittedTotal = s.emittedTotal)
    (pending : t.pendingBytesWritten = s.pendingBytesWritten + n) (freed : t.freedTotal = s.freedTotal + n)
    (inside : t.insideTotal = s.insideTotal + if s.emittedBytesWritten then n else 0) :
    KeepsAccount s t := by
  refine ⟨protocol, emitting, ?_, ?_⟩
  · intro quiet
    simp only [quiet, Bool.false_eq_true, if_false] at inside
    omega
  · intro busy
    simp only [busy, if_true] at inside
    refine ⟨emitted, ?_, ?_⟩ <;> omega

theorem keepsAccount_same {s t : Socket} (same : t.writeView.unnotified = s.writeView.unnotified) :
    KeepsAccount s t := by
  have protocol : t.protocol = s.protocol := congrArg WriteView.protocol same
  have trace : t.trace.filter Event.onWriteSide = s.trace.filter Event.onWriteSide :=
    congrArg WriteView.trace same
  have amounts : ∀ amount : Event → Int, (∀ e, e.onWriteSide = false → amount e = 0) →
      total amount t.trace = total amount s.trace := by
    intro amount side
    rw [← total_filter side t.trace, trace, total_filter side]
  refine .of_steady protocol (congrArg WriteView.emittedBytesWritten same) (n := 0) ?_ ?_ ?_ ?_
  · apply amounts
    intro e h
    cases e with
    | signal sig => cases sig <;> first | rfl | cases h
    | _ => rfl
  · rw [Int.add_zero]
    exact congrArg WriteView.pendingBytesWritten same
  · rw [Int.add_zero]
    apply amounts
    intro e h
    cases e <;> first | rfl | cases h
  · rw [Socket.insideTotal, protocol, ite_self, Int.add_zero]
    apply amounts
    intro e h
    cases e <;> first | rfl | cases h

theorem keepsAccount_queued (data : List UInt8) (s : Socket) :
    KeepsAccount s (({ s with writeBuffer := s.writeBuffer ++ data }).log (.queued data)) := by
  refine .of_steady rfl rfl (n := 0) ?_ (Int.add_zero _).symm ?_ ?_ <;>
    simp [Socket.emittedTotal, Socket.freedTotal, Socket.insideTotal, Socket.log, Event.emittedBytes,
      Event.freedBytes, Event.insideBytes]

/-- An emission reports the amount pending before it; what its slots send is reset unreported. -/
theorem keepsAccount_announced {slot : Slot} (slots : ∀ sig s, KeepsAccount s (slot sig s)) (s : Socket) :
    KeepsAccount s (s.announced slot) := by
  unfold Socket.announced Socket.emitBytesWritten
  split
  next report =>
    have quiet : s.emittedBytesWritten = false := by simpa using report.2
    have nested := slots (.bytesWritten s.pendingBytesWritten) (({ s with emittedBytesWritten := true }).log
      (.signal (.bytesWritten s.pendingBytesWritten)))
    obtain ⟨emitted, pending, inside⟩ := nested.inside rfl
    simp only [Socket.emittedTotal, Socket.freedTotal, Socket.insideTotal, Socket.log, total_append,
      total_cons, total_nil, Event.emittedBytes, Event.freedBytes, Event.insideBytes] at emitted pending inside
    refine ⟨nested.protocol, quiet.symm, fun _ => ?_, fun busy => ?_⟩
    · simp only [Socket.emittedTotal, Socket.freedTotal, Socket.insideTotal, Socket.emit, Socket.log]
      omega
    · rw [quiet] at busy
      cases busy
  next => exact .of_steady rfl rfl (n := 0) rfl (Int.add_zero _).symm (Int.add_zero _).symm (by simp; rfl)

theorem sendBlock_totals (env : WriteEnv) (s : Socket) :
    (s.sendBlock env).emittedTotal = s.emittedTotal ∧ (s.sendBlock env).freedTotal = s.freedTotal ∧
      (s.sendBlock env).insideTotal =
        s.insideTotal + if s.emittedBytesWritten then max (s.writeResult env).ret 0 else 0 := by
  have calls : ∀ amount : Event → Int, (∀ d call, amount (.write d call) = 0) →
      total amount (s.sendBlock env).trace = total amount s.trace +
        amount (.writeToSocket s.emittedBytesWritten (s.nextDataBlock env) (s.writeAnswers env.answers)) := by
    intro amount none
    simp [Socket.sendBlock, Socket.setErrno, total_calls none]
  refine ⟨?_, ?_, ?_⟩
  · exact (calls Event.emittedBytes fun _ _ => rfl).trans (Int.add_zero _)
  · exact (calls Event.freedBytes fun _ _ => rfl).trans (Int.add_zero _)
  · exact calls (Event.insideBytes s.protocol) fun _ _ => rfl

theorem keepsAccount_failed {s : Socket} {env : WriteEnv} (failed : (s.writeResult env).ret < 0) :
    KeepsAccount s (s.sendBlock env) := by
  obtain ⟨emitted, freed, inside⟩ := sendBlock_totals env s
  have nothing : max (s.writeResult env).ret 0 = 0 := by omega
  rw [nothing] at inside
  exact .of_steady rfl rfl (n := 0) emitted (Int.add_zero _).symm (by omega) inside

theorem keepsAccount_sent {s : Socket} {env : WriteEnv} {n : Nat} (ret : (s.writeResult env).ret = n) :
    KeepsAccount s ((s.sendBlock env).freeWritten n) := by
  obtain ⟨emitted, freed, inside⟩ := sendBlock_totals env s
  have sent : max (s.writeResult env).ret 0 = n := by omega
  rw [sent] at inside
  have logged : ∀ amount : Event → Int, total amount ((s.sendBlock env).trace ++ [.freed n]) =
      total amount (s.sendBlock env).trace + amount (.freed n) := by simp
  refine .of_steady rfl rfl (n := n) ?_ rfl ?_ ?_
  · exact (logged Event.emittedBytes).trans ((Int.add_zero _).trans emitted)
  · exact (logged Event.freedBytes).trans (congrArg (· + (n : Int)) freed)
  · exact (logged (Event.insideBytes s.protocol)).trans ((Int.add_zero _).trans inside)

theorem keepsAccount_bytes : WriteBytesKeep KeepsAccount where
  trans := KeepsAccount.trans
  same := keepsAccount_same
  queued := keepsAccount_queued
  announced _ slots := keepsAccount_announced slots
  failed _ failed := keepsAccount_failed failed
  sent _ ret _ _ := keepsAccount_sent ret

/-- After every run on a connection, its slots calling back to any depth, the amounts reported
and pending add up to the freed one if and only if no batch made during an emission of
`bytesWritten` sent anything: the counter is reset behind the emission, not before it. -/
theorem bytesWritten_account_iff {script : Script} {s : Socket} (start : JustConnected s)
    (on : script.All Call.OnConnection fun _ => False) :
    (script.exec s).emittedTotal + (script.exec s).pendingBytesWritten = (script.exec s).freedTotal ↔
      ∀ block answers, Event.writeToSocket true block answers ∈ (script.exec s).trace →
        (s.protocol.writeToSocket block answers).ret ≤ 0 := by
  have kept := keepsAccount_bytes.writeSide.script on s
  have account := kept.outside start.emittedBytesWritten
  have before : s.emittedTotal = 0 ∧ s.freedTotal = 0 ∧ s.insideTotal = 0 := by
    simp [Socket.emittedTotal, Socket.freedTotal, Socket.insideTotal, start.trace]
  have inside : (script.exec s).insideTotal = total (Event.insideBytes s.protocol) (script.exec s).trace := by
    rw [Socket.insideTotal, kept.protocol]
  rw [← (total_inside s.protocol (script.exec s).trace).2, ← inside]
  have pending := start.pendingBytesWritten
  omega

theorem bytesWritten_account_iff_nested :
    let s := Script.exec (.call (.write twoFrames) (fun _ _ => .done)
      (.call (.flush ⟨16, [.all]⟩) (fun _ _ => .done)
      (.call (.writeNotification ⟨16, [.all]⟩) (fun _ _ => .ofList [.flush ⟨16, [.fail .ENOBUFS]⟩]) .done)))
      (.connected (.raw {}) 3)
    s.emittedTotal + s.pendingBytesWritten = s.freedTotal ↔
      ∀ block answers, Event.writeToSocket true block answers ∈ s.trace →
        ((Protocol.raw {}).writeToSocket block answers).ret ≤ 0 :=
  bytesWritten_account_iff justConnected_raw
    ⟨trivial, fun _ _ => ⟨trivial, False.elim⟩, trivial, fun _ _ => ⟨trivial, False.elim⟩, trivial,
      fun _ _ => ⟨CallRun.Script.all_ofList (by simp [Call.OnConnection]), False.elim⟩, trivial⟩

/-- The second frame goes out from a slot of the signal that reports the first, and is never reported. -/
theorem bytesWritten_account_fails :
    let s := Script.exec (.call (.write twoFrames) (fun _ _ => .done)
      (.call (.flush ⟨16, [.all]⟩) (fun _ _ => .done)
      (.call (.writeNotification ⟨16, [.all]⟩) (fun _ _ => .ofList [.flush ⟨16, [.all]⟩]) .done)))
      (.connected (.raw {}) 3)
    s.emittedBytesWritten = false ∧ s.emittedTotal = 16 ∧ s.freedTotal = 32 ∧
      s.emittedTotal + s.pendingBytesWritten ≠ s.freedTotal := by
  decide

end CanSocket
