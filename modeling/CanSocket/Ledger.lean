import Mathlib.Data.List.Basic

namespace Ledger

universe u v

variable {α : Type u} {β : Type v} [DecidableEq α]

/-- A handle is acquired, or it is given back. -/
inductive Act (α : Type u)
  | acquire (a : α)
  | release (a : α)

/-- The handles held, `none` once a handle was given back that was not held. -/
def post : Option (List α) → Act α → Option (List α)
  | some held, .acquire a => some (a :: held)
  | some held, .release a => if a ∈ held then some (held.erase a) else none
  | none, _ => none

/-- The handles held after a history that began with none, what `act` reads of it. -/
def held (act : β → Option (Act α)) (history : List β) : Option (List α) :=
  (history.filterMap act).foldl post (some [])

variable {act : β → Option (Act α)}

@[simp] theorem held_nil : held act [] = some [] := rfl

theorem held_acquire {b : β} {a : α} (acquires : act b = some (.acquire a)) {history : List β}
    {handles : List α} (before : held act history = some handles) :
    held act (history ++ [b]) = some (a :: handles) := by
  rw [held] at before ⊢
  simp [acquires, before, post]

theorem held_release {b : β} {a : α} (releases : act b = some (.release a)) {history : List β}
    {handles : List α} (before : held act history = some (a :: handles)) :
    held act (history ++ [b]) = some handles := by
  rw [held] at before ⊢
  simp [releases, before, post]

theorem held_filter {p : β → Bool} (silent : ∀ b, p b = false → act b = none) (history : List β) :
    held act (history.filter p) = held act history := by
  rw [held, held, List.filterMap_filter]
  congr 1
  apply List.filterMap_congr
  intro b _
  cases h : p b with
  | true => rfl
  | false => exact (silent b h).symm

end Ledger
