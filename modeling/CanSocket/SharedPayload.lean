import CanSocket.ObjectHeap
import Mathlib.Data.Set.Card

namespace ObjectHeap.Heap

universe u

variable {α : Type u}

/-- The reference count of a cell, `0` when the cell is not live. -/
def count (h : Heap (Nat × α)) (p : Nat) : Nat := ((h.cells p).map Prod.fst).getD 0

def payload (h : Heap (Nat × α)) (p : Nat) : Option α := (h.cells p).map Prod.snd

def value (h : Heap (Nat × α)) (x : Nat) : Option α := (h.pointers x).bind h.payload

def ref (h : Heap (Nat × α)) : Option Nat → Heap (Nat × α)
  | some p => h.setCell p ((h.cells p).map fun cell => (cell.1 + 1, cell.2))
  | none => h

/-- One pointer less; the last one takes the cell with it. -/
def deref (h : Heap (Nat × α)) : Option Nat → Heap (Nat × α)
  | some p => h.setCell p ((h.cells p).bind fun cell => if cell.1 ≤ 1 then none else some (cell.1 - 1, cell.2))
  | none => h

/-- A pointer moves: its new cell is counted before the old one is let go. -/
def redirect (h : Heap (Nat × α)) (x : Nat) (target : Option Nat) : Heap (Nat × α) :=
  ((h.ref target).deref (h.pointers x)).point x target

/-- An object that points to a new cell. A name in use is given up before. -/
def construct (h : Heap (Nat × α)) (x : Nat) (a : α) : Heap (Nat × α) :=
  (h.alloc (0, a)).redirect x (some h.fresh)

/-- The copy constructor and the assignment: the cell is shared from now on. -/
def assign (h : Heap (Nat × α)) (x y : Nat) : Heap (Nat × α) :=
  match h.pointers y with
  | some p => if h.pointers x = some p then h else h.redirect x (some p)
  | none => h

def destroy (h : Heap (Nat × α)) (x : Nat) : Heap (Nat × α) := h.redirect x none

def swap (h : Heap (Nat × α)) (x y : Nat) : Heap (Nat × α) :=
  { h with pointers := fun z => h.pointers (Equiv.swap x y z) }

/-- Before an access that may write, a shared cell is copied. -/
def detach (h : Heap (Nat × α)) (x : Nat) : Heap (Nat × α) :=
  match h.pointers x with
  | some p => if h.count p = 1 then h else
    match h.payload p with
    | some a => h.construct x a
    | none => h
  | none => h

def store (h : Heap (Nat × α)) (x : Nat) (a : α) : Heap (Nat × α) :=
  match h.pointers x with
  | some p => h.setCell p ((h.cells p).map fun cell => (cell.1, a))
  | none => h

def modify (h : Heap (Nat × α)) (x : Nat) (a : α) : Heap (Nat × α) := (h.detach x).store x a

/-- The objects that point to a cell. -/
def owners (h : Heap (Nat × α)) (p : Nat) : Set Nat := {x | h.pointers x = some p}

/-- Every count is the number of the objects that point to the cell. -/
structure Counted (h : Heap (Nat × α)) : Prop where
  bounded : h.Bounded
  exact : ∀ p, (h.owners p).encard = h.count p

variable {h : Heap (Nat × α)} {target old : Option Nat} {p q x y : Nat}

theorem count_ref (live : ∀ p, target = some p → h.cells p ≠ none) (q : Nat) :
    (h.ref target).count q = h.count q + if target = some q then 1 else 0 := by
  cases target with
  | none => simp [ref]
  | some p =>
    obtain ⟨cell, at_p⟩ := Option.ne_none_iff_exists'.mp (live p rfl)
    rcases eq_or_ne q p with rfl | other
    · simp [count, ref, at_p]
    · simp [count, ref, cells_setCell_of_ne other, other.symm]

theorem count_deref (h : Heap (Nat × α)) (old : Option Nat) (q : Nat) :
    (h.deref old).count q = h.count q - if old = some q then 1 else 0 := by
  cases old with
  | none => simp [deref]
  | some p =>
    rcases eq_or_ne q p with rfl | other
    · cases at_q : h.cells q with
      | none => simp [count, deref, at_q]
      | some cell =>
        by_cases last : cell.1 ≤ 1
        · simp [count, deref, at_q, last]
        · simp [count, deref, at_q, last]
    · simp [count, deref, cells_setCell_of_ne other, other.symm]

theorem payload_ref (h : Heap (Nat × α)) (target : Option Nat) (q : Nat) :
    (h.ref target).payload q = h.payload q := by
  cases target with
  | none => rfl
  | some p =>
    rcases eq_or_ne q p with rfl | other
    · simp [payload, ref, Function.comp_def]
    · simp [payload, ref, cells_setCell_of_ne other]

theorem payload_deref (kept : (h.deref old).count q ≠ 0) : (h.deref old).payload q = h.payload q := by
  cases old with
  | none => rfl
  | some p =>
    rcases eq_or_ne q p with rfl | other
    · cases at_q : h.cells q with
      | none => simp [payload, deref, at_q]
      | some cell =>
        by_cases last : cell.1 ≤ 1
        · simp [count, deref, at_q, last] at kept
        · simp [payload, deref, at_q, last]
    · simp [payload, deref, cells_setCell_of_ne other]

@[simp] theorem pointers_redirect (h : Heap (Nat × α)) (x : Nat) (target : Option Nat) :
    (h.redirect x target).pointers = Function.update h.pointers x target := by
  unfold redirect
  cases target <;> cases h.pointers x <;> rfl

theorem count_redirect (live : ∀ p, target = some p → h.cells p ≠ none) (q : Nat) :
    (h.redirect x target).count q =
      h.count q + (if target = some q then 1 else 0) - if h.pointers x = some q then 1 else 0 := by
  rw [← count_ref live, ← count_deref]
  rfl

theorem payload_redirect (kept : (h.redirect x target).count q ≠ 0) :
    (h.redirect x target).payload q = h.payload q := by
  have released : ((h.ref target).deref (h.pointers x)).payload q = (h.ref target).payload q := payload_deref kept
  rw [← payload_ref h target]
  exact released

theorem live_iff (h : Heap (Nat × α)) (p : Nat) (counted : h.count p ≠ 0) : h.cells p ≠ none := by
  intro dead
  simp [count, dead] at counted

theorem Counted.count_ne_zero (counted : h.Counted) (at_x : h.pointers x = some p) : h.count p ≠ 0 := by
  have owned := Set.encard_ne_zero_of_mem (show x ∈ h.owners p from at_x)
  rw [counted.exact p] at owned
  exact_mod_cast owned

theorem owners_redirect (h : Heap (Nat × α)) (x : Nat) (target : Option Nat) (q : Nat) :
    (h.redirect x target).owners q = if target = some q then insert x (h.owners q) else h.owners q \ {x} := by
  ext y
  rcases eq_or_ne y x with rfl | other
  · by_cases same : target = some q <;> simp [owners, same]
  · by_cases same : target = some q <;> simp [owners, same, other]

theorem Bounded.below (bounded : h.Bounded) (live : h.cells p ≠ none) : p < h.fresh :=
  Nat.lt_of_not_le fun le => live (bounded.cells p le)

theorem Bounded.ref (bounded : h.Bounded) (live : ∀ p, target = some p → h.cells p ≠ none) :
    (h.ref target).Bounded := by
  cases target with
  | none => exact bounded
  | some p => exact bounded.setCell (bounded.below (live p rfl)) _

theorem Bounded.deref (bounded : h.Bounded) (below : ∀ p, old = some p → p < h.fresh) : (h.deref old).Bounded := by
  cases old with
  | none => exact bounded
  | some p => exact bounded.setCell (below p rfl) _

@[simp] theorem fresh_ref (h : Heap (Nat × α)) (target : Option Nat) : (h.ref target).fresh = h.fresh := by
  cases target <;> rfl

@[simp] theorem fresh_deref (h : Heap (Nat × α)) (old : Option Nat) : (h.deref old).fresh = h.fresh := by
  cases old <;> rfl

theorem Bounded.redirect (bounded : h.Bounded) (x : Nat) (live : ∀ p, target = some p → h.cells p ≠ none) :
    (h.redirect x target).Bounded := by
  refine ((bounded.ref live).deref fun p at_x => ?_).point x fun p same => ?_
  · rw [fresh_ref]
    exact bounded.pointers x p at_x
  · rw [fresh_deref, fresh_ref]
    exact bounded.below (live p same)

/-- Moving a pointer keeps the counts exact. -/
theorem Counted.redirect (counted : h.Counted) (x : Nat) (live : ∀ p, target = some p → h.cells p ≠ none) :
    (h.redirect x target).Counted where
  bounded := counted.bounded.redirect x live
  exact q := by
    have before := counted.exact q
    rw [owners_redirect, count_redirect live]
    by_cases here : h.pointers x = some q
    · have mem : x ∈ h.owners q := here
      by_cases same : target = some q
      · rw [if_pos same, if_pos same, if_pos here, Set.insert_eq_of_mem mem, before, Nat.add_sub_cancel]
      · rw [if_neg same, if_neg same, if_pos here, Nat.add_zero]
        have less := Set.encard_sdiff_singleton_add_one mem
        obtain ⟨n, positive⟩ := Nat.exists_eq_succ_of_ne_zero (counted.count_ne_zero here)
        rw [before, positive, Nat.cast_succ] at less
        rw [positive, Nat.succ_sub_one]
        exact ENat.add_left_injective_of_ne_top ENat.one_ne_top less
    · have mem : x ∉ h.owners q := here
      by_cases same : target = some q
      · rw [if_pos same, if_pos same, if_neg here, Set.encard_insert_of_notMem mem, before, Nat.sub_zero]
        push_cast
        rfl
      · rw [if_neg same, if_neg same, if_neg here, Set.sdiff_singleton_eq_self mem, before]
        rfl

theorem Counted.live (counted : h.Counted) (at_x : h.pointers x = some p) : h.cells p ≠ none :=
  live_iff h p (counted.count_ne_zero at_x)

theorem value_redirect_self (counted : h.Counted) (at_p : h.cells p ≠ none) :
    (h.redirect x (some p)).value x = h.payload p := by
  have moved := counted.redirect x fun q same => Option.some.inj same ▸ at_p
  have at_x : (h.redirect x (some p)).pointers x = some p := by simp
  rw [value, at_x, Option.bind_some, payload_redirect (moved.count_ne_zero at_x)]

theorem value_redirect_of_ne (counted : h.Counted) (live : ∀ p, target = some p → h.cells p ≠ none)
    (other : y ≠ x) : (h.redirect x target).value y = h.value y := by
  have at_y : (h.redirect x target).pointers y = h.pointers y := by simp [other]
  rw [value, value, at_y]
  cases held : h.pointers y with
  | none => rfl
  | some q => exact payload_redirect ((counted.redirect x live).count_ne_zero (at_y.trans held))

theorem assign_of_pointer (at_y : h.pointers y = some p) :
    h.assign x y = if h.pointers x = some p then h else h.redirect x (some p) := by
  rw [assign, at_y]

theorem Counted.alloc (counted : h.Counted) (a : α) : (h.alloc (0, a)).Counted where
  bounded := counted.bounded.alloc (0, a)
  exact p := by
    have before := counted.exact p
    rcases eq_or_ne p h.fresh with rfl | other
    · have nobody : h.owners h.fresh = ∅ := by
        ext x
        refine ⟨fun at_x => ?_, fun none => absurd none (Set.notMem_empty x)⟩
        exact absurd (counted.bounded.pointers x h.fresh at_x) (Nat.lt_irrefl _)
      have same : (h.alloc (0, a)).owners h.fresh = h.owners h.fresh := rfl
      rw [same, nobody]
      simp [count]
    · have same : (h.alloc (0, a)).count p = h.count p := by
        rw [count, count, cells_alloc_of_ne other]
      rw [same, ← before]
      rfl

theorem alloc_live (h : Heap (Nat × α)) (a : α) (p : Nat) (same : some h.fresh = some p) :
    (h.alloc (0, a)).cells p ≠ none := by
  rw [← Option.some.inj same, cells_alloc_fresh]
  exact Option.some_ne_none _

theorem Counted.construct (counted : h.Counted) (x : Nat) (a : α) : (h.construct x a).Counted :=
  (counted.alloc a).redirect x (alloc_live h a)

@[simp] theorem pointers_construct (h : Heap (Nat × α)) (x : Nat) (a : α) :
    (h.construct x a).pointers = Function.update h.pointers x (some h.fresh) := by
  rw [Heap.construct, pointers_redirect, pointers_alloc]

theorem value_construct_self (counted : h.Counted) (x : Nat) (a : α) : (h.construct x a).value x = some a := by
  rw [Heap.construct, value_redirect_self (counted.alloc a) (alloc_live h a h.fresh rfl), payload, cells_alloc_fresh]
  rfl

theorem value_construct_of_ne (counted : h.Counted) (a : α) (other : y ≠ x) :
    (h.construct x a).value y = h.value y := by
  rw [Heap.construct, value_redirect_of_ne (counted.alloc a) (alloc_live h a) other, value, value, pointers_alloc]
  cases at_y : h.pointers y with
  | none => rfl
  | some q =>
    have below := counted.bounded.pointers y q at_y
    simp only [Option.bind_some, payload, cells_alloc_of_ne (Nat.ne_of_lt below)]

/-- An object is the only one at its cell when the cell counts one pointer. -/
theorem Counted.sole (counted : h.Counted) (one : h.count p = 1) (at_x : h.pointers x = some p)
    (at_y : h.pointers y = some p) : y = x := by
  have single := counted.exact p
  rw [one, Nat.cast_one] at single
  exact Set.encard_le_one_iff.mp (le_of_eq single) y x at_y at_x

/-- After `detach` an object is alone at its cell, and nothing else can be told from before. -/
theorem Counted.detach (counted : h.Counted) (at_x : h.pointers x = some q) :
    (h.detach x).Counted ∧ (∀ y, y ≠ x → (h.detach x).pointers y = h.pointers y) ∧
      (∀ y, (h.detach x).value y = h.value y) ∧
      ∃ p, (h.detach x).pointers x = some p ∧ ∀ y, y ≠ x → (h.detach x).pointers y ≠ some p := by
  obtain ⟨cell, live⟩ := Option.ne_none_iff_exists'.mp (counted.live at_x)
  by_cases one : h.count q = 1
  · have same : h.detach x = h := by simp [Heap.detach, at_x, one]
    rw [same]
    exact ⟨counted, fun _ _ => rfl, fun _ => rfl, q, at_x, fun y other at_y =>
      other (counted.sole one at_x at_y)⟩
  · have copied : h.detach x = h.construct x cell.2 := by simp [Heap.detach, at_x, one, payload, live]
    rw [copied]
    refine ⟨counted.construct x cell.2, fun y other => by simp [other], fun y => ?_, h.fresh, by simp, ?_⟩
    · rcases eq_or_ne y x with rfl | other
      · rw [value_construct_self counted, value, at_x, Option.bind_some, payload, live]
        rfl
      · exact value_construct_of_ne counted cell.2 other
    · intro y other at_y
      have before : h.pointers y = some h.fresh := by simpa [other] using at_y
      exact absurd (counted.bounded.pointers y h.fresh before) (Nat.lt_irrefl _)

@[simp] theorem pointers_store (h : Heap (Nat × α)) (x : Nat) (a : α) : (h.store x a).pointers = h.pointers := by
  unfold store
  cases h.pointers x <;> rfl

@[simp] theorem pointers_modify (h : Heap (Nat × α)) (x : Nat) (a : α) :
    (h.modify x a).pointers = (h.detach x).pointers := pointers_store ..

theorem count_store (h : Heap (Nat × α)) (x : Nat) (a : α) (q : Nat) : (h.store x a).count q = h.count q := by
  unfold store
  cases h.pointers x with
  | none => rfl
  | some p =>
    rcases eq_or_ne q p with rfl | other
    · simp [count, Function.comp_def]
    · simp [count, cells_setCell_of_ne other]

theorem Counted.store (counted : h.Counted) (at_x : h.pointers x = some p) (a : α) : (h.store x a).Counted where
  bounded := by
    rw [Heap.store, at_x]
    exact counted.bounded.setCell (counted.bounded.pointers x p at_x) _
  exact q := by
    rw [count_store, ← counted.exact q, owners, owners, pointers_store]

theorem value_store_self (counted : h.Counted) (at_x : h.pointers x = some p) (a : α) :
    (h.store x a).value x = some a := by
  obtain ⟨cell, live⟩ := Option.ne_none_iff_exists'.mp (counted.live at_x)
  rw [value, pointers_store, at_x, Option.bind_some, Heap.store, at_x]
  simp [payload, live]

theorem value_store_of_ne (at_x : h.pointers x = some p) (a : α) (apart : h.pointers y ≠ some p) :
    (h.store x a).value y = h.value y := by
  rw [value, pointers_store, value]
  cases at_y : h.pointers y with
  | none => rfl
  | some q =>
    have other : q ≠ p := fun same => apart (by rw [at_y, same])
    simp only [Option.bind_some, Heap.store, at_x, payload, cells_setCell_of_ne other]

theorem Counted.swap (counted : h.Counted) (x y : Nat) : (h.swap x y).Counted where
  bounded := ⟨counted.bounded.cells, fun z p at_z => counted.bounded.pointers (Equiv.swap x y z) p at_z⟩
  exact p := by
    have exchanged : (h.swap x y).owners p = (Equiv.swap x y).symm '' h.owners p :=
      (Equiv.image_symm_eq_preimage (Equiv.swap x y) (h.owners p)).symm
    rw [exchanged, (Equiv.swap x y).symm.injective.encard_image, counted.exact p]
    rfl

end ObjectHeap.Heap
