import Mathlib.Data.List.Basic

universe u

/-- A one-way channel that keeps order: what has been put in, what has come out
at the far end, and what is still under way. Nothing can be lost or doubled,
since the three always add up. -/
structure Channel (α : Type u) where
  offered : List α
  delivered : List α
  waiting : List α
  conserved : delivered ++ waiting = offered

namespace Channel

variable {α : Type u}

def empty : Channel α := ⟨[], [], [], rfl⟩

def offer (ch : Channel α) (xs : List α) : Channel α :=
  ⟨ch.offered ++ xs, ch.delivered, ch.waiting ++ xs, by rw [← ch.conserved, List.append_assoc]⟩

def deliver (ch : Channel α) (n : Nat) : Channel α :=
  ⟨ch.offered, ch.delivered ++ ch.waiting.take n, ch.waiting.drop n, by
    rw [List.append_assoc, List.take_append_drop, ch.conserved]⟩

/-- The channel is the abstraction of a state in which these three lists are observed. -/
structure Shows (ch : Channel α) (offered delivered waiting : List α) : Prop where
  offered_eq : ch.offered = offered
  delivered_eq : ch.delivered = delivered
  waiting_eq : ch.waiting = waiting

theorem shows_empty : (empty : Channel α).Shows [] [] [] := ⟨rfl, rfl, rfl⟩

theorem Shows.conserved {ch : Channel α} {offered delivered waiting : List α}
    (h : ch.Shows offered delivered waiting) : delivered ++ waiting = offered := by
  rw [← h.delivered_eq, ← h.waiting_eq, ch.conserved, h.offered_eq]

theorem Shows.offer {ch : Channel α} {offered delivered waiting : List α}
    (h : ch.Shows offered delivered waiting) (xs : List α) :
    (ch.offer xs).Shows (offered ++ xs) delivered (waiting ++ xs) :=
  ⟨congrArg (· ++ xs) h.offered_eq, h.delivered_eq, congrArg (· ++ xs) h.waiting_eq⟩

theorem Shows.deliver {ch : Channel α} {offered delivered waiting : List α}
    (h : ch.Shows offered delivered waiting) (n : Nat) :
    (ch.deliver n).Shows offered (delivered ++ waiting.take n) (waiting.drop n) := by
  refine ⟨h.offered_eq, ?_, ?_⟩
  · rw [← h.delivered_eq, ← h.waiting_eq]; rfl
  · rw [← h.waiting_eq]; rfl

end Channel
