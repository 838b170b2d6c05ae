import Mathlib.Data.List.Basic

namespace TurnLoop

universe u v w x

variable {ι : Type u} {σ : Type v} {ρ : Type w} {α : Type x}

/-- How a turn of a loop ends: the loop returns a result, or goes on. -/
inductive Turn (σ : Type v) (ρ : Type w)
  | done (result : ρ) (s : σ)
  | again (s : σ)

def Turn.state : Turn σ ρ → σ
  | .done _ s => s
  | .again s => s

/-- A loop with one turn for each input; `out` is what it comes to when they are used up. -/
def loop (turn : ι → σ → Turn σ ρ) (out : σ → ρ × σ) : List ι → σ → ρ × σ
  | [], s => out s
  | i :: inputs, s =>
    match turn i s with
    | .done result t => (result, t)
    | .again t => loop turn out inputs t

/-- The loop begins its turn number `k` with the input `i` in the state `t`. -/
inductive Begins (turn : ι → σ → Turn σ ρ) : Nat → List ι → σ → ι → σ → Prop
  | first (i : ι) (inputs : List ι) (s : σ) : Begins turn 0 (i :: inputs) s i s
  | later {k : Nat} {i j : ι} {inputs : List ι} {s t u : σ} : turn i s = .again t →
      Begins turn k inputs t j u → Begins turn (k + 1) (i :: inputs) s j u

variable {turn : ι → σ → Turn σ ρ} {out : σ → ρ × σ}

theorem Begins.input {k : Nat} {inputs : List ι} {s t : σ} {i : ι} (h : Begins turn k inputs s i t) :
    inputs[k]? = some i := by
  induction h with
  | first i inputs s => rfl
  | later _ _ ih => exact ih

/-- The state before turn number `k`, if all before it go on and leave what `next` says. -/
def stateAt (next : ι → σ → σ) (inputs : List ι) (k : Nat) (s : σ) : σ := (inputs.take k).foldl (fun t i => next i t) s

/-- A loop whose turns go on unless something stops them begins the turns before which nothing has. -/
theorem begins_iff {stops : ι → σ → Prop} {next : ι → σ → σ}
    (again_iff : ∀ i s t, turn i s = .again t ↔ ¬stops i s ∧ t = next i s) {k : Nat} {inputs : List ι} {s t : σ} {i : ι} :
    Begins turn k inputs s i t ↔ inputs[k]? = some i ∧ t = stateAt next inputs k s ∧
      ∀ j < k, ∀ other, inputs[j]? = some other → ¬stops other (stateAt next inputs j s) := by
  constructor
  · intro begins
    refine ⟨begins.input, ?_⟩
    induction begins with
    | first => exact ⟨rfl, fun j below => absurd below (Nat.not_lt_zero j)⟩
    | later again _ ih =>
      obtain ⟨goes, rfl⟩ := (again_iff _ _ _).mp again
      obtain ⟨here, before⟩ := ih
      refine ⟨here, fun j below other input => ?_⟩
      cases j with
      | zero => exact Option.some.inj input ▸ goes
      | succ j => exact before j (Nat.lt_of_succ_lt_succ below) other input
  · rintro ⟨input, rfl, before⟩
    induction k generalizing inputs s with
    | zero =>
      cases inputs with
      | nil => cases input
      | cons first inputs => exact Option.some.inj input ▸ .first first inputs s
    | succ k ih =>
      cases inputs with
      | nil => cases input
      | cons first inputs =>
        have goes : turn first s = .again (next first s) :=
          (again_iff _ _ _).mpr ⟨before 0 (Nat.zero_lt_succ k) first rfl, rfl⟩
        exact .later goes (ih input fun j below other at_j => before (j + 1) (Nat.succ_lt_succ below) other at_j)

/-- What every turn that goes on keeps holds of each state a turn begins in. -/
theorem Begins.keeps {Inv : σ → Prop} (keep : ∀ i t u, turn i t = .again u → Inv t → Inv u) {k : Nat}
    {inputs : List ι} {s t : σ} {i : ι} (h : Begins turn k inputs s i t) (start : Inv s) : Inv t := by
  induction h with
  | first i inputs s => exact start
  | later again _ ih => exact ih (keep _ _ _ again start)

theorem Begins.ends {k : Nat} {inputs : List ι} {s t u : σ} {i : ι} {result : ρ}
    (h : Begins turn k inputs s i t) (done : turn i t = .done result u) :
    loop turn out inputs s = (result, u) := by
  induction h with
  | first i inputs s => rw [loop, done]
  | later again _ ih => rw [loop, again]; exact ih done

/-- A loop ends in the turn that returned, or it has gone through all its inputs. -/
theorem loop_ends (inputs : List ι) (s : σ) :
    (∃ k i t result u, Begins turn k inputs s i t ∧ turn i t = .done result u ∧
      loop turn out inputs s = (result, u)) ∨ ∃ t, loop turn out inputs s = out t := by
  induction inputs generalizing s with
  | nil => exact Or.inr ⟨s, rfl⟩
  | cons i inputs ih =>
    cases taken : turn i s with
    | done result t =>
      have begins := @Begins.first ι σ ρ turn i inputs s
      exact Or.inl ⟨0, i, s, result, t, begins, taken, begins.ends taken⟩
    | again t =>
      have same : loop turn out (i :: inputs) s = loop turn out inputs t := by rw [loop, taken]
      rw [same]
      rcases ih t with ⟨k, j, t', result, u, begins, done, eq⟩ | outs
      · exact Or.inl ⟨k + 1, j, t', result, u, .later taken begins, done, eq⟩
      · exact Or.inr outs

/-- A relation that joins, holds over every turn and over running out of inputs, holds over the loop. -/
theorem loop_rel {R : σ → σ → Prop} (joins : ∀ {s t u}, R s t → R t u → R s u)
    (turns : ∀ i s, R s (turn i s).state) (ended : ∀ s, R s (out s).2) (inputs : List ι) (s : σ) :
    R s (loop turn out inputs s).2 := by
  induction inputs generalizing s with
  | nil => exact ended s
  | cons i inputs ih =>
    have here := turns i s
    unfold loop
    cases taken : turn i s with
    | done result t => rwa [taken] at here
    | again t =>
      rw [taken] at here
      exact joins here (ih t)

/-- One entry for each turn the loop begins, and one for running out of inputs. -/
def entries (turn : ι → σ → Turn σ ρ) (entry : ι → α) (last : α) : List ι → σ → List α
  | [], _ => [last]
  | i :: inputs, s =>
    entry i ::
      match turn i s with
      | .done _ _ => []
      | .again t => entries turn entry last inputs t

variable {entry : ι → α} {last : α}

/-- A log to which every turn adds its entry holds the entries of the loop in the end. -/
theorem loop_log {log : σ → List α} (turns : ∀ i s, log (turn i s).state = log s ++ [entry i])
    (ended : ∀ s, log (out s).2 = log s ++ [last]) (inputs : List ι) (s : σ) :
    log (loop turn out inputs s).2 = log s ++ entries turn entry last inputs s := by
  induction inputs generalizing s with
  | nil => exact ended s
  | cons i inputs ih =>
    have here := turns i s
    unfold loop entries
    cases taken : turn i s with
    | done result t => rwa [taken] at here
    | again t =>
      rw [taken] at here
      rw [ih, show log t = _ from here, List.append_assoc]
      rfl

/-- The entry of a turn is made when it begins. -/
theorem entries_get {k : Nat} {inputs : List ι} {s : σ} {i : ι} {a : α} (input : inputs[k]? = some i)
    (get : (entries turn entry last inputs s)[k]? = some a) : a = entry i ∧ ∃ t, Begins turn k inputs s i t := by
  induction inputs generalizing k s with
  | nil => simp at input
  | cons j inputs ih =>
    unfold entries at get
    cases k with
    | zero =>
      simp only [List.getElem?_cons_zero, Option.some.injEq] at input get
      subst input
      exact ⟨get.symm, s, .first j inputs s⟩
    | succ k =>
      rw [List.getElem?_cons_succ] at input get
      cases taken : turn j s with
      | done result t => rw [taken] at get; cases get
      | again t =>
        rw [taken] at get
        obtain ⟨made, u, begins⟩ := ih input get
        exact ⟨made, u, .later taken begins⟩

theorem entries_of_begins {k : Nat} {inputs : List ι} {s t : σ} {i : ι} (begins : Begins turn k inputs s i t) :
    (entries turn entry last inputs s)[k]? = some (entry i) := by
  induction begins with
  | first => simp [entries]
  | later again _ ih => simpa [entries, again] using ih

/-- An entry stands behind that of turn `k` exactly if that turn is begun and goes on. -/
theorem entries_after_iff {k : Nat} {inputs : List ι} {s : σ} :
    k + 1 < (entries turn entry last inputs s).length ↔
      ∃ i t u, Begins turn k inputs s i t ∧ turn i t = .again u := by
  induction inputs generalizing k s with
  | nil =>
    refine iff_of_false (by simp [entries]) ?_
    rintro ⟨i, t, u, begins, _⟩
    cases begins
  | cons j inputs ih =>
    have positive : ∀ t, 0 < (entries turn entry last inputs t).length := by
      intro t
      cases inputs <;> simp [entries]
    unfold entries
    cases taken : turn j s with
    | done result t =>
      refine iff_of_false (by simp) ?_
      rintro ⟨i, t', u, begins, again⟩
      cases begins with
      | first => rw [taken] at again; cases again
      | later first => rw [taken] at first; cases first
    | again t =>
      cases k with
      | zero =>
        have more := positive t
        exact iff_of_true (by simpa using more) ⟨j, s, t, .first j inputs s, taken⟩
      | succ k =>
        rw [List.length_cons, Nat.add_lt_add_iff_right, ih]
        constructor
        · rintro ⟨i, t', u, begins, again⟩
          exact ⟨i, t', u, .later taken begins, again⟩
        · rintro ⟨i, t', u, begins, again⟩
          cases begins with
          | later first begins =>
            cases taken.symm.trans first
            exact ⟨i, t', u, begins, again⟩

end TurnLoop
