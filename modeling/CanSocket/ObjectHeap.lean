import Mathlib.Logic.Function.Basic

namespace ObjectHeap

universe u

variable {β : Type u}

/-- Named objects, each with a pointer to a cell. A cell is live while it has a content. -/
structure Heap (β : Type u) where
  cells : Nat → Option β
  pointers : Nat → Option Nat
  fresh : Nat

namespace Heap

def empty : Heap β := ⟨fun _ => none, fun _ => none, 0⟩

/-- A new cell, at an address that was never in use. -/
def alloc (h : Heap β) (b : β) : Heap β :=
  { h with cells := Function.update h.cells h.fresh (some b), fresh := h.fresh + 1 }

def setCell (h : Heap β) (p : Nat) (cell : Option β) : Heap β :=
  { h with cells := Function.update h.cells p cell }

def point (h : Heap β) (x : Nat) (target : Option Nat) : Heap β :=
  { h with pointers := Function.update h.pointers x target }

/-- What an object holds: the content of the cell it points to. -/
def held (h : Heap β) (x : Nat) : Option β := (h.pointers x).bind h.cells

/-- The addresses from `fresh` on are neither live nor pointed to. -/
structure Bounded (h : Heap β) : Prop where
  cells : ∀ p, h.fresh ≤ p → h.cells p = none
  pointers : ∀ x p, h.pointers x = some p → p < h.fresh

variable (h : Heap β)

@[simp] theorem pointers_alloc (b : β) : (h.alloc b).pointers = h.pointers := rfl

@[simp] theorem fresh_alloc (b : β) : (h.alloc b).fresh = h.fresh + 1 := rfl

@[simp] theorem pointers_setCell (p : Nat) (cell : Option β) : (h.setCell p cell).pointers = h.pointers := rfl

@[simp] theorem fresh_setCell (p : Nat) (cell : Option β) : (h.setCell p cell).fresh = h.fresh := rfl

@[simp] theorem cells_point (x : Nat) (target : Option Nat) : (h.point x target).cells = h.cells := rfl

@[simp] theorem pointers_point_self (x : Nat) (target : Option Nat) :
    (h.point x target).pointers x = target := Function.update_self ..

@[simp] theorem cells_setCell_self (p : Nat) (cell : Option β) : (h.setCell p cell).cells p = cell :=
  Function.update_self ..

@[simp] theorem cells_alloc_fresh (b : β) : (h.alloc b).cells h.fresh = some b := Function.update_self ..

variable {h}

theorem pointers_point_of_ne {x y : Nat} (other : y ≠ x) (target : Option Nat) :
    (h.point x target).pointers y = h.pointers y := Function.update_of_ne other ..

theorem cells_setCell_of_ne {p q : Nat} (other : q ≠ p) (cell : Option β) :
    (h.setCell p cell).cells q = h.cells q := Function.update_of_ne other ..

theorem cells_alloc_of_ne {p : Nat} (other : p ≠ h.fresh) (b : β) : (h.alloc b).cells p = h.cells p :=
  Function.update_of_ne other ..

theorem bounded_empty : (empty : Heap β).Bounded := ⟨fun _ _ => rfl, fun _ _ => nofun⟩

theorem Bounded.alloc (bounded : h.Bounded) (b : β) : (h.alloc b).Bounded where
  cells p le := by
    rw [fresh_alloc] at le
    rw [cells_alloc_of_ne (by omega)]
    exact bounded.cells p (by omega)
  pointers x p at_x := by
    have below := bounded.pointers x p at_x
    rw [fresh_alloc]
    omega

theorem Bounded.setCell (bounded : h.Bounded) {p : Nat} (below : p < h.fresh) (cell : Option β) :
    (h.setCell p cell).Bounded where
  cells q le := by
    rw [fresh_setCell] at le
    rw [cells_setCell_of_ne (by omega)]
    exact bounded.cells q le
  pointers := bounded.pointers

theorem Bounded.point (bounded : h.Bounded) (x : Nat) {target : Option Nat} (below : ∀ p, target = some p → p < h.fresh) :
    (h.point x target).Bounded where
  cells := bounded.cells
  pointers y p at_y := by
    rcases eq_or_ne y x with rfl | other
    · exact below p (by rwa [pointers_point_self] at at_y)
    · exact bounded.pointers y p (by rwa [pointers_point_of_ne other] at at_y)

end Heap

end ObjectHeap
