import Mathlib.Data.List.Basic

namespace Chronicle

universe u v

variable {σ : Type u} {ε : Type v} {history : σ → List ε}

/-- Between two states the history was written on, and what was written stands to them as `P` says. -/
def Extends (history : σ → List ε) (P : σ → List ε → σ → Prop) (s t : σ) : Prop :=
  ∃ events, history t = history s ++ events ∧ P s events t

theorem Extends.trans {P : σ → List ε → σ → Prop}
    (joins : ∀ {s t u before after}, P s before t → P t after u → P s (before ++ after) u) {s t u : σ}
    (first : Extends history P s t) (second : Extends history P t u) : Extends history P s u := by
  obtain ⟨before, toT, holdsT⟩ := first
  obtain ⟨after, toU, holdsU⟩ := second
  exact ⟨before ++ after, by rw [toU, toT, List.append_assoc], joins holdsT holdsU⟩

variable {α : Type u} {step : α → α → Prop}

/-- A walk from one value to another by way of the values told, each reached by a step from the one before. -/
inductive Walk (step : α → α → Prop) : α → List α → α → Prop
  | stay (a : α) : Walk step a [] a
  | go {a b c : α} {told : List α} (first : step a b) (rest : Walk step b told c) : Walk step a (b :: told) c

namespace Walk

variable {a b c : α} {told later : List α}

theorem single (one : step a b) : Walk step a [b] b := .go one (.stay b)

theorem append (first : Walk step a told b) (second : Walk step b later c) : Walk step a (told ++ later) c := by
  induction first with
  | stay => exact second
  | go one _ ih => exact .go one (ih second)

/-- The walk ends at what was told last. -/
theorem last (walk : Walk step a told b) : told.getLastD a = b := by
  induction walk with
  | stay => rfl
  | go _ _ ih => rwa [List.getLastD_cons]

end Walk

end Chronicle
