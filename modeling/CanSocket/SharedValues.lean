import CanSocket.SharedPayload

namespace ObjectHeap

universe u

variable {α : Type u}

/-- Objects that share nothing: a value of its own under each name in use. -/
abbrev Values (α : Type u) := Nat → Option α

namespace Values

def empty : Values α := fun _ => none

def put (values : Values α) (x : Nat) (a : α) : Values α := Function.update values x (some a)

def assign (values : Values α) (x y : Nat) : Values α :=
  match values y with
  | some a => values.put x a
  | none => values

def destroy (values : Values α) (x : Nat) : Values α := Function.update values x none

def swap (values : Values α) (x y : Nat) : Values α := fun z => values (Equiv.swap x y z)

@[simp] theorem put_self (values : Values α) (x : Nat) (a : α) : values.put x a x = some a := Function.update_self ..

theorem put_of_ne (values : Values α) (a : α) {x y : Nat} (other : y ≠ x) : values.put x a y = values y :=
  Function.update_of_ne other ..

theorem assign_of_value {values : Values α} {y : Nat} {a : α} (at_y : values y = some a) (x : Nat) :
    values.assign x y = values.put x a := by rw [assign, at_y]

end Values

/-- No cell outlives its last pointer. -/
def Heap.Unleaked (h : Heap (Nat × α)) : Prop := ∀ p, h.cells p ≠ none → h.count p ≠ 0

/-- Sharing cannot be told: the heap shows the values, counts its pointers exactly and holds no cell that nothing
points to. -/
structure Shows (h : Heap (Nat × α)) (values : Values α) : Prop where
  counted : h.Counted
  unleaked : h.Unleaked
  value : ∀ x, h.value x = values x

variable {h : Heap (Nat × α)} {values : Values α} {x y p q : Nat} {a : α}

namespace Heap

theorem Unleaked.ref {target : Option Nat} (live : ∀ p, target = some p → h.cells p ≠ none)
    (owned : ∀ p, h.cells p ≠ none → h.count p ≠ 0 ∨ target = some p) : (h.ref target).Unleaked := by
  intro q at_q
  rw [count_ref live]
  by_cases here : target = some q
  · simp [here]
  · have before : h.cells q ≠ none := by
      cases target with
      | none => exact at_q
      | some p =>
        have other : q ≠ p := fun same => here (by rw [same])
        rwa [Heap.ref, cells_setCell_of_ne other] at at_q
    simpa [here] using (owned q before).resolve_right here

theorem Unleaked.deref (unleaked : h.Unleaked) (old : Option Nat) : (h.deref old).Unleaked := by
  intro q at_q
  cases old with
  | none => exact unleaked q at_q
  | some p =>
    rcases eq_or_ne q p with rfl | other
    · cases cell : h.cells q with
      | none => simp [Heap.deref, cell] at at_q
      | some content =>
        by_cases last : content.1 ≤ 1
        · simp [Heap.deref, cell, last] at at_q
        · simp only [count, Heap.deref, cell, Option.bind_some, if_neg last, cells_setCell_self, Option.map_some,
            Option.getD_some]
          omega
    · rw [Heap.deref, cells_setCell_of_ne other] at at_q
      have before := unleaked q at_q
      rwa [count, Heap.deref, cells_setCell_of_ne other]

theorem Unleaked.redirect (x : Nat) {target : Option Nat} (live : ∀ p, target = some p → h.cells p ≠ none)
    (owned : ∀ p, h.cells p ≠ none → h.count p ≠ 0 ∨ target = some p) : (h.redirect x target).Unleaked :=
  (Unleaked.ref live owned).deref (h.pointers x)

theorem Unleaked.construct (unleaked : h.Unleaked) (x : Nat) (a : α) : (h.construct x a).Unleaked := by
  refine Unleaked.redirect x (alloc_live h a) fun p at_p => ?_
  rcases eq_or_ne p h.fresh with rfl | other
  · exact Or.inr rfl
  · rw [cells_alloc_of_ne other] at at_p
    have same : (h.alloc (0, a)).count p = h.count p := by
      rw [count, count, cells_alloc_of_ne other]
    exact Or.inl (same ▸ unleaked p at_p)

theorem Unleaked.detach (unleaked : h.Unleaked) (x : Nat) : (h.detach x).Unleaked := by
  unfold Heap.detach
  split
  next p _ =>
    split
    next => exact unleaked
    next =>
      split
      next a _ => exact unleaked.construct x a
      next => exact unleaked
  next => exact unleaked

theorem Unleaked.store (unleaked : h.Unleaked) (x : Nat) (a : α) : (h.store x a).Unleaked := by
  intro q at_q
  rw [count_store]
  refine unleaked q fun dead => at_q ?_
  unfold Heap.store
  split
  next p _ =>
    rcases eq_or_ne q p with rfl | other
    · simp [dead]
    · rwa [cells_setCell_of_ne other]
  next => exact dead

/-- A cell lives exactly as long as an object points to it. -/
theorem live_iff_owned (counted : h.Counted) (unleaked : h.Unleaked) (p : Nat) :
    h.cells p ≠ none ↔ ∃ x, h.pointers x = some p :=
  ⟨fun live => by
    have owned : (h.owners p).encard ≠ 0 := by
      rw [counted.exact p]
      exact_mod_cast unleaked p live
    exact Set.encard_ne_zero.mp owned,
  fun ⟨_, at_x⟩ => counted.live at_x⟩

end Heap

namespace Shows

theorem empty : Shows (Heap.empty : Heap (Nat × α)) Values.empty where
  counted := ⟨Heap.bounded_empty, fun p => by simp [Heap.owners, Heap.empty, Heap.count]⟩
  unleaked _ live := absurd rfl live
  value _ := rfl

theorem pointer (shows : Shows h values) (at_x : values x = some a) : ∃ p, h.pointers x = some p := by
  have value := shows.value x
  rw [at_x, Heap.value] at value
  obtain ⟨p, at_p, _⟩ := Option.bind_eq_some_iff.mp value
  exact ⟨p, at_p⟩

theorem construct (shows : Shows h values) (x : Nat) (a : α) : Shows (h.construct x a) (values.put x a) where
  counted := shows.counted.construct x a
  unleaked := shows.unleaked.construct x a
  value y := by
    rcases eq_or_ne y x with rfl | other
    · rw [Heap.value_construct_self shows.counted, Values.put_self]
    · rw [Heap.value_construct_of_ne shows.counted a other, values.put_of_ne a other, shows.value y]

theorem modify (shows : Shows h values) {b : α} (at_x : values x = some b) (a : α) :
    Shows (h.modify x a) (values.put x a) := by
  obtain ⟨q, old⟩ := shows.pointer at_x
  obtain ⟨counted, _, same, p, new, alone⟩ := shows.counted.detach old
  refine ⟨counted.store new a, (shows.unleaked.detach x).store x a, fun y => ?_⟩
  rcases eq_or_ne y x with rfl | other
  · rw [Heap.modify, Heap.value_store_self counted new, Values.put_self]
  · rw [Heap.modify, Heap.value_store_of_ne new a (alone y other), same y, values.put_of_ne a other,
      shows.value y]

theorem detach (shows : Shows h values) {b : α} (at_x : values x = some b) : Shows (h.detach x) values := by
  obtain ⟨q, old⟩ := shows.pointer at_x
  obtain ⟨counted, _, same, _⟩ := shows.counted.detach old
  exact ⟨counted, shows.unleaked.detach x, fun y => (same y).trans (shows.value y)⟩

theorem assign (shows : Shows h values) (x y : Nat) : Shows (h.assign x y) (values.assign x y) := by
  cases at_y : values y with
  | none =>
    have nobody : h.pointers y = none := by
      by_contra there
      obtain ⟨p, at_p⟩ := Option.ne_none_iff_exists'.mp there
      obtain ⟨cell, live⟩ := Option.ne_none_iff_exists'.mp (shows.counted.live at_p)
      have value := shows.value y
      rw [at_y, Heap.value, at_p, Option.bind_some, Heap.payload, live] at value
      cases value
    simpa [Heap.assign, Values.assign, nobody, at_y] using shows
  | some a =>
    obtain ⟨p, at_p⟩ := shows.pointer at_y
    have content : h.payload p = some a := by
      have value := shows.value y
      rwa [at_y, Heap.value, at_p, Option.bind_some] at value
    rw [Values.assign_of_value at_y, Heap.assign_of_pointer at_p]
    by_cases already : h.pointers x = some p
    · rw [if_pos already]
      refine ⟨shows.counted, shows.unleaked, fun z => ?_⟩
      rcases eq_or_ne z x with rfl | other
      · rw [Values.put_self, Heap.value, already, Option.bind_some, content]
      · rw [values.put_of_ne a other, shows.value z]
    · rw [if_neg already]
      have live := shows.counted.live at_p
      have lives : ∀ q, some p = some q → h.cells q ≠ none := fun q eq => Option.some.inj eq ▸ live
      refine ⟨shows.counted.redirect x lives, Heap.Unleaked.redirect x lives fun q at_q =>
        Or.inl (shows.unleaked q at_q), fun z => ?_⟩
      rcases eq_or_ne z x with rfl | other
      · rw [Heap.value_redirect_self shows.counted live, content, Values.put_self]
      · rw [Heap.value_redirect_of_ne shows.counted lives other, values.put_of_ne a other,
          shows.value z]

theorem destroy (shows : Shows h values) (x : Nat) : Shows (h.destroy x) (values.destroy x) where
  counted := shows.counted.redirect x (by rintro p ⟨⟩)
  unleaked := Heap.Unleaked.redirect x (by rintro p ⟨⟩) fun q at_q => Or.inl (shows.unleaked q at_q)
  value y := by
    rcases eq_or_ne y x with rfl | other
    · simp [Heap.destroy, Heap.value, Values.destroy]
    · rw [Heap.destroy, Heap.value_redirect_of_ne shows.counted (by rintro p ⟨⟩) other, Values.destroy,
        Function.update_of_ne other, shows.value y]

theorem swap (shows : Shows h values) (x y : Nat) : Shows (h.swap x y) (values.swap x y) where
  counted := shows.counted.swap x y
  unleaked := shows.unleaked
  value z := shows.value (Equiv.swap x y z)

end Shows

end ObjectHeap
