import Mathlib.Data.List.Basic
import Mathlib.Data.List.Induction

namespace CallRun

universe u v w x y

variable {σ : Type u} {κ : Type v} {γ : Type w} {τ : Type x} {ω : Type y}

def run (step : κ → σ → σ) (calls : List κ) (s : σ) : σ :=
  calls.foldl (fun t c => step c t) s

def Guarded (step : κ → σ → σ) (guard : κ → σ → Prop) : List κ → σ → Prop
  | [], _ => True
  | c :: calls, s => guard c s ∧ Guarded step guard calls (step c s)

@[simp] theorem run_nil (step : κ → σ → σ) (s : σ) : run step [] s = s := rfl

@[simp] theorem run_cons (step : κ → σ → σ) (c : κ) (calls : List κ) (s : σ) :
    run step (c :: calls) s = run step calls (step c s) := rfl

@[simp] theorem run_append (step : κ → σ → σ) (before after : List κ) (s : σ) :
    run step (before ++ after) s = run step after (run step before s) := by
  simp [run, List.foldl_append]

/-- What holds at the start and is kept by every guarded call holds after every guarded run. -/
theorem run_invariant {step : κ → σ → σ} {guard : κ → σ → Prop} {Inv : σ → Prop}
    (keep : ∀ c s, guard c s → Inv s → Inv (step c s)) {calls : List κ} {s : σ}
    (guarded : Guarded step guard calls s) (start : Inv s) : Inv (run step calls s) := by
  induction calls generalizing s with
  | nil => exact start
  | cons c calls ih => exact ih guarded.2 (keep c s guarded.1 start)

/-- What the calls of a run put out, each in the state it is made in. -/
def gather (step : κ → σ → σ) (out : κ → σ → List ω) : List κ → σ → List ω
  | [], _ => []
  | c :: calls, s => out c s ++ gather step out calls (step c s)

theorem gather_filterMap {step : κ → σ → σ} {out : κ → σ → List ω} {f : ω → Option τ} (calls : List κ) (s : σ) :
    (gather step out calls s).filterMap f = gather step (fun c s => (out c s).filterMap f) calls s := by
  induction calls generalizing s with
  | nil => rfl
  | cons c calls ih => rw [gather, gather, List.filterMap_append, ih]

/-- The rule for refinement. Where every guarded call does to the view of the state what the
abstract steps it puts out do, so does every guarded run. -/
theorem run_refines {step : κ → σ → σ} {guard : κ → σ → Prop} {Inv : σ → Prop} {view : σ → τ}
    {abstract : ω → τ → τ} {out : κ → σ → List ω} (keep : ∀ c s, guard c s → Inv s → Inv (step c s))
    (refines : ∀ c s, guard c s → Inv s → view (step c s) = run abstract (out c s) (view s))
    {calls : List κ} {s : σ} (guarded : Guarded step guard calls s) (start : Inv s) :
    view (run step calls s) = run abstract (gather step out calls s) (view s) := by
  induction calls generalizing s with
  | nil => rfl
  | cons c calls ih =>
    rw [run_cons, ih guarded.2 (keep c s guarded.1 start), refines c s guarded.1 start, gather, run_append]

/-- Where a property that held at the start is gone, there was a last call that ended it. -/
theorem run_last_loss {step : κ → σ → σ} {on : σ → Prop} {calls : List κ} {s : σ} (start : on s)
    (off : ¬on (run step calls s)) :
    ∃ before c after, calls = before ++ c :: after ∧ on (run step before s) ∧
      ∀ middle, middle <+: after → ¬on (run step middle (step c (run step before s))) := by
  induction calls using List.reverseRecOn with
  | nil => exact absurd start off
  | append_singleton calls last ih =>
    by_cases still : on (run step calls s)
    · refine ⟨calls, last, [], rfl, still, ?_⟩
      intro middle prefix_nil
      rw [List.prefix_nil.mp prefix_nil]
      simpa using off
    · obtain ⟨before, c, after, rfl, held, gone⟩ := ih still
      refine ⟨before, c, after ++ [last], by simp, held, ?_⟩
      intro middle prefix_last
      rcases List.prefix_concat_iff.mp prefix_last with rfl | inner
      · simpa using off
      · exact gone middle inner

theorem guarded_of_all {step : κ → σ → σ} {guard : κ → Prop} {calls : List κ} (all : ∀ c ∈ calls, guard c)
    (s : σ) : Guarded step (fun c _ => guard c) calls s := by
  induction calls generalizing s with
  | nil => trivial
  | cons c calls ih => exact ⟨all c (by simp), ih (fun x hx => all x (by simp [hx])) _⟩

theorem guarded_and {step : κ → σ → σ} {guard guard' : κ → σ → Prop} {calls : List κ} {s : σ}
    (first : Guarded step guard calls s) (second : Guarded step guard' calls s) :
    Guarded step (fun c s => guard c s ∧ guard' c s) calls s := by
  induction calls generalizing s with
  | nil => trivial
  | cons c calls ih => exact ⟨⟨first.1, second.1⟩, ih first.2 second.2⟩

/-- What the surroundings of a component do: one call after another, and for every
signal emitted during a call the script its receivers run before the call goes on.
The moment of the emission, a number, tells one emission from the next. -/
inductive Script (κ : Type v) (γ : Type w) : Type (max v w)
  | done
  | call (c : κ) (slots : Nat → γ → Script κ γ) (rest : Script κ γ)

def Script.run (exec : (γ → σ → σ) → κ → σ → σ) (now : σ → Nat) : Script κ γ → σ → σ
  | .done, s => s
  | .call c slots rest, s =>
    rest.run exec now (exec (fun sig t => (slots (now t) sig).run exec now t) c s)

/-- All calls of a script, nested ones included, are of one kind, and no call is made in
answer to the signals that are to stay quiet. -/
def Script.All (p : κ → Prop) (quiet : γ → Prop) : Script κ γ → Prop
  | .done => True
  | .call c slots rest =>
    p c ∧ (∀ i sig, (slots i sig).All p quiet ∧ (quiet sig → slots i sig = .done)) ∧ rest.All p quiet

theorem Script.all_true (script : Script κ γ) : script.All (fun _ => True) fun _ => False := by
  induction script with
  | done => trivial
  | call c slots rest nested next => exact ⟨trivial, fun i sig => ⟨nested i sig, False.elim⟩, next⟩

theorem Script.All.mono {p p' : κ → Prop} {quiet quiet' : γ → Prop} (weaker : ∀ c, p c → p' c)
    (louder : ∀ sig, quiet' sig → quiet sig) {script : Script κ γ} (all : script.All p quiet) :
    script.All p' quiet' := by
  induction script with
  | done => trivial
  | call c slots rest nested next =>
    obtain ⟨here, inner, after⟩ := all
    exact ⟨weaker c here, fun i sig => ⟨nested i sig (inner i sig).1, fun hq => (inner i sig).2 (louder sig hq)⟩,
      next after⟩

theorem Script.All.and {p p' : κ → Prop} {quiet quiet' : γ → Prop} {script : Script κ γ} (all : script.All p quiet)
    (all' : script.All p' quiet') : script.All p quiet' := by
  induction script with
  | done => trivial
  | call c slots rest nested next =>
    obtain ⟨here, inner, after⟩ := all
    obtain ⟨_, inner', after'⟩ := all'
    exact ⟨here, fun i sig => ⟨nested i sig (inner i sig).1 (inner' i sig).1, (inner' i sig).2⟩, next after after'⟩

def Script.ofList : List κ → Script κ γ
  | [] => .done
  | c :: calls => .call c (fun _ _ => .done) (Script.ofList calls)

theorem Script.all_ofList {p : κ → Prop} {quiet : γ → Prop} {calls : List κ} (all : ∀ c ∈ calls, p c) :
    (Script.ofList calls).All p quiet := by
  induction calls with
  | nil => trivial
  | cons c calls ih =>
    exact ⟨all c (by simp), fun _ _ => ⟨trivial, fun _ => rfl⟩, ih fun x hx => all x (by simp [hx])⟩

/-- The rule for re-entrant runs. A relation that is reflexive, transitive and kept by
each call whose handlers keep it relates the two ends of every script. -/
theorem Script.run_rel {exec : (γ → σ → σ) → κ → σ → σ} {now : σ → Nat} {p : κ → Prop}
    {quiet : γ → Prop} {R : σ → σ → Prop} (refl : ∀ s, R s s) (trans : ∀ {s t u}, R s t → R t u → R s u)
    (keep : ∀ slot, (∀ sig s, R s (slot sig s)) → (∀ sig, quiet sig → ∀ s, slot sig s = s) →
      ∀ c, p c → ∀ s, R s (exec slot c s))
    {script : Script κ γ} (all : script.All p quiet) (s : σ) : R s (script.run exec now s) := by
  induction script generalizing s with
  | done => exact refl s
  | call c slots rest nested next =>
    obtain ⟨here, inner, after⟩ := all
    have kept : ∀ sig t, R t ((slots (now t) sig).run exec now t) :=
      fun sig t => nested (now t) sig (inner (now t) sig).1 t
    have silent : ∀ sig, quiet sig → ∀ t, (slots (now t) sig).run exec now t = t := by
      intro sig hq t
      rw [(inner (now t) sig).2 hq]
      rfl
    exact trans (keep _ kept silent c here s) (next after _)

/-- The points a call runs its handlers at, or more: whatever they do elsewhere makes no difference to it. -/
def RunsAt (exec : (γ → σ → σ) → κ → σ → σ) (slot : γ → σ → σ) (c : κ) (s : σ) (points : γ → σ → Prop) : Prop :=
  ∀ other : γ → σ → σ, (∀ sig t, points sig t → other sig t = slot sig t) → exec other c s = exec slot c s

theorem runsAt_all (exec : (γ → σ → σ) → κ → σ → σ) (slot : γ → σ → σ) (c : κ) (s : σ) :
    RunsAt exec slot c s fun _ _ => True := by
  intro other same
  have eq : other = slot := funext fun sig => funext fun t => same sig t trivial
  rw [eq]

/-- Every call of a script is made in a state that meets its guard, nested calls included, and finds a state it
can resume in when the script run for one of its signals is done. -/
def Script.Guarded (exec : (γ → σ → σ) → κ → σ → σ) (now : σ → Nat) (guard : κ → σ → Prop)
    (resumes : κ → γ → σ → Prop) : Script κ γ → σ → Prop
  | .done, _ => True
  | .call c slots rest, s =>
    guard c s ∧
    (∃ points, RunsAt exec (fun sig t => (slots (now t) sig).run exec now t) c s points ∧
      ∀ sig t, points sig t → (slots (now t) sig).Guarded exec now guard resumes t ∧
        resumes c sig ((slots (now t) sig).run exec now t)) ∧
    rest.Guarded exec now guard resumes (exec (fun sig t => (slots (now t) sig).run exec now t) c s)

/-- The rule for guarded re-entrant runs. The handlers may be taken to resume well at every point, since
at those the call does not run them at any others do as well. -/
theorem Script.run_guarded {exec : (γ → σ → σ) → κ → σ → σ} {now : σ → Nat} {guard : κ → σ → Prop}
    {resumes : κ → γ → σ → Prop} {R : σ → σ → Prop} (refl : ∀ s, R s s)
    (trans : ∀ {s t u}, R s t → R t u → R s u) (resume : ∀ c sig t, ∃ u, R t u ∧ resumes c sig u)
    (keep : ∀ slot, (∀ sig s, R s (slot sig s)) → ∀ c, (∀ sig s, resumes c sig (slot sig s)) →
      ∀ s, guard c s → R s (exec slot c s))
    {script : Script κ γ} {s : σ} (guarded : script.Guarded exec now guard resumes s) :
    R s (script.run exec now s) := by
  classical
  induction script generalizing s with
  | done => exact refl s
  | call c slots rest nested next =>
    obtain ⟨here, ⟨points, only, inside⟩, after⟩ := guarded
    choose elsewhere related resumed using resume
    have same := only (fun sig t => if points sig t then (slots (now t) sig).run exec now t else elsewhere c sig t)
      fun sig t point => if_pos point
    refine trans ?_ (next after)
    rw [← same]
    refine keep _ (fun sig t => ?_) c (fun sig t => ?_) s here
    · split
      next point => exact nested (now t) sig (inside sig t point).1
      next => exact related c sig t
    · split
      next point => exact (inside sig t point).2
      next => exact resumed c sig t

end CallRun
