import Mathlib.Data.List.Basic

namespace Dialogue

universe u v w

variable {α : Type u} {ε : Type v} {σ : Type w} (refusal : α → Option ε) (effect : α → σ → σ)

/-- Steps carried out one after the other, up to the first that is refused. -/
def carryOut : List α → σ → Bool × σ
  | [], s => (true, s)
  | step :: steps, s =>
    match refusal step with
    | some _ => (false, effect step s)
    | none => carryOut steps (effect step s)

/-- The steps that are tried: those before the first refused one, and that one. -/
def tried : List α → List α
  | [] => []
  | step :: steps =>
    match refusal step with
    | some _ => [step]
    | none => step :: tried steps

def firstRefusal (steps : List α) : Option ε := steps.findSome? refusal

theorem carryOut_append (steps later : List α) (s : σ) :
    carryOut refusal effect (steps ++ later) s =
      match carryOut refusal effect steps s with
      | (false, t) => (false, t)
      | (true, t) => carryOut refusal effect later t := by
  induction steps generalizing s with
  | nil => rfl
  | cons step steps ih =>
    rw [List.cons_append, carryOut, carryOut]
    cases refusal step with
    | some e => rfl
    | none => exact ih _

theorem tried_all {steps : List α} (none : firstRefusal refusal steps = none) : tried refusal steps = steps := by
  induction steps with
  | nil => rfl
  | cons step steps ih =>
    rw [firstRefusal, List.findSome?_cons] at none
    rw [tried]
    cases h : refusal step with
    | some e => simp [h] at none
    | none =>
      rw [h] at none
      exact congrArg (List.cons step) (ih none)

end Dialogue
