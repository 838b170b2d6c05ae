import Mathlib.Data.List.Induction

namespace History

universe u v

variable {α : Type u} {β : Type v} {P : List α → α → Prop}

/-- Every event of a history stands to what came before it as `P` says. -/
def EachAfter (P : List α → α → Prop) (history : List α) : Prop :=
  ∀ before e after, history = before ++ e :: after → P before e

@[simp] theorem eachAfter_nil : EachAfter P [] := by
  intro before e after eq
  simp at eq

@[simp] theorem eachAfter_concat (history : List α) (last : α) :
    EachAfter P (history ++ [last]) ↔ EachAfter P history ∧ P history last := by
  constructor
  · intro h
    refine ⟨fun before e after eq => h before e (after ++ [last]) (by simp [eq]), h history last [] rfl⟩
  · rintro ⟨h, now⟩ before e after eq
    cases after using List.reverseRecOn with
    | nil =>
      obtain ⟨rfl, same⟩ := List.append_inj' eq rfl
      cases same
      exact now
    | append_singleton after final =>
      rw [← List.cons_append, ← List.append_assoc] at eq
      obtain ⟨same, _⟩ := List.append_inj' eq rfl
      exact h before e after same

theorem EachAfter.left {before after : List α} (h : EachAfter P (before ++ after)) : EachAfter P before :=
  fun front e rest eq => h front e (rest ++ after) (by simp [eq])

/-- Events that `P` admits after any past may be put behind a history. -/
theorem EachAfter.append_all {history events : List α} (h : EachAfter P history)
    (all : ∀ e ∈ events, ∀ before, P before e) : EachAfter P (history ++ events) := by
  induction events using List.reverseRecOn with
  | nil => rwa [List.append_nil]
  | append_singleton events last ih =>
    rw [← List.append_assoc, eachAfter_concat]
    exact ⟨ih fun e mem => all e (by simp [mem]), all last (by simp) _⟩

/-- Events that leave alone what `P` reads of the past may all be judged by the past of the first. -/
theorem EachAfter.append_still {history : List α} (h : EachAfter P history) (view : List α → β)
    (events : List α) (reads : ∀ before after e, view before = view after → P before e → P after e)
    (still : ∀ e ∈ events, ∀ before, view (before ++ [e]) = view before) (now : ∀ e ∈ events, P history e) :
    EachAfter P (history ++ events) ∧ view (history ++ events) = view history := by
  induction events using List.reverseRecOn with
  | nil => simpa using h
  | append_singleton events last ih =>
    obtain ⟨earlier, same⟩ := ih (fun e mem => still e (by simp [mem])) (fun e mem => now e (by simp [mem]))
    have here : P (history ++ events) last := reads _ _ _ same.symm (now last (by simp))
    rw [← List.append_assoc]
    exact ⟨(eachAfter_concat _ _).mpr ⟨earlier, here⟩, (still last (by simp) _).trans same⟩

/-- A history is split in one way only at the last event that is not of some kind. -/
theorem split_unique {p : α → Bool} {before before' after after' : List α} {e e' : α}
    (same : before ++ e :: after = before' ++ e' :: after') (kind : ∀ x ∈ after, p x = true)
    (kind' : ∀ x ∈ after', p x = true) (other : p e = false) (other' : p e' = false) :
    before = before' ∧ e = e' ∧ after = after' := by
  have flipped : after.reverse ++ e :: before.reverse = after'.reverse ++ e' :: before'.reverse := by
    simpa using congrArg List.reverse same
  have front : ∀ (xs ys : List α) (x : α), (∀ y ∈ xs, p y = true) → p x = false →
      (xs.reverse ++ x :: ys).takeWhile p = xs.reverse := by
    intro xs ys x all last
    rw [List.takeWhile_append_of_pos fun y mem => all y (List.mem_reverse.mp mem)]
    simp [last]
  have tails : after.reverse = after'.reverse := by
    rw [← front after before.reverse e kind other, flipped, front after' before'.reverse e' kind' other']
  obtain rfl := List.reverse_inj.mp tails
  obtain ⟨heads, rest⟩ := List.append_inj' same rfl
  exact ⟨heads, (List.cons.inj rest).1, rfl⟩

/-- Events that `P` does not speak of may be left out. -/
theorem eachAfter_filter {p : α → Bool} (silent : ∀ before e, p e = false → P before e)
    (same : ∀ before e, P (before.filter p) e ↔ P before e) (history : List α) :
    EachAfter P (history.filter p) ↔ EachAfter P history := by
  induction history using List.reverseRecOn with
  | nil => rfl
  | append_singleton history last ih =>
    cases on : p last with
    | true => simp [List.filter_append, on, ih, same]
    | false => simp [List.filter_append, on, ih, silent history last on]

end History
