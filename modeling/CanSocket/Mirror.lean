import CanSocket.CallRun

namespace Mirror

universe u v

variable {α : Type u} {ο : Type v} {put : ο → α → α}

/-- Settings that are kept twice: as they are told to their owner, and as they are in force
in the session that is open, if one is. -/
structure Settings (α : Type u) where
  told : α
  inForce : Option α

/-- A session begins with what was told, a session ends, or a setting is granted. -/
inductive Act (ο : Type v)
  | begin
  | finish
  | grant (o : ο)

def post (put : ο → α → α) : Act ο → Settings α → Settings α
  | .begin, m => { m with inForce := some m.told }
  | .finish, m => { m with inForce := none }
  | .grant o, m => ⟨put o m.told, m.inForce.map (put o)⟩

def Act.granted : Act ο → Option ο
  | .grant o => some o
  | _ => none

def InSync (m : Settings α) : Prop := ∀ a ∈ m.inForce, a = m.told

theorem InSync.post {m : Settings α} (h : InSync m) (act : Act ο) : InSync (post put act m) := by
  intro a ha
  cases act with
  | begin => exact (Option.some.inj ha).symm
  | finish => cases ha
  | grant o =>
    obtain ⟨b, hb, rfl⟩ := Option.map_eq_some_iff.mp ha
    exact congrArg (put o) (h b hb)

theorem run_inSync {m : Settings α} (h : InSync m) (acts : List (Act ο)) :
    InSync (CallRun.run (post put) acts m) :=
  CallRun.run_invariant (fun act _ _ before => before.post act)
    (CallRun.guarded_of_all (fun _ _ => trivial) m : CallRun.Guarded _ (fun _ _ => True) acts m) h

/-- Sessions may come and go: what is told is what was granted, in order. -/
theorem run_told (acts : List (Act ο)) (m : Settings α) :
    (CallRun.run (post put) acts m).told = CallRun.run put (acts.filterMap Act.granted) m.told := by
  induction acts generalizing m with
  | nil => rfl
  | cons act acts ih =>
    rw [CallRun.run_cons, ih]
    cases act <;> rfl

end Mirror
