import CanSocket.ObjectHeap
import Mathlib.Data.List.Nodup

namespace ObjectHeap

universe u

variable {β : Type u}

/-- A heap whose objects are meant to own their cells, with the cells released so far. -/
structure Store (β : Type u) extends Heap β where
  released : List Nat

namespace Store

def empty : Store β := ⟨Heap.empty, []⟩

/-- The content of the cell an object points to; a released cell gives junk. -/
def read (s : Store β) (junk : β) (x : Nat) : β := (s.held x).getD junk

def construct (s : Store β) (x : Nat) (b : β) : Store β :=
  { s with toHeap := (s.alloc b).point x (some s.fresh) }

/-- The copy constructor that copies the cell. -/
def copy (s : Store β) (junk : β) (x y : Nat) : Store β := s.construct x (s.read junk y)

/-- The assignment that copies the pointer. -/
def assign (s : Store β) (x y : Nat) : Store β := { s with toHeap := s.point x (s.pointers y) }

def set (s : Store β) (x : Nat) (f : β → β) : Store β :=
  match s.pointers x with
  | some p => { s with toHeap := s.setCell p ((s.cells p).map f) }
  | none => s

/-- The destructor releases the cell its object points to. -/
def destroy (s : Store β) (x : Nat) : Store β :=
  match s.pointers x with
  | some p => ⟨(s.setCell p none).point x none, p :: s.released⟩
  | none => s

/-- Every object has a live cell of its own, and no cell was released twice. -/
structure Owned (s : Store β) : Prop where
  live : ∀ x p, s.pointers x = some p → s.cells p ≠ none
  alone : ∀ x y p, s.pointers x = some p → s.pointers y = some p → x = y
  once : s.released.Nodup

/-- What `Owned` needs to last: the released cells stay dead. -/
structure Sound (s : Store β) : Prop extends s.Owned where
  bounded : s.Bounded
  gone : ∀ p ∈ s.released, p < s.fresh ∧ s.cells p = none

variable {s : Store β} {x y p : Nat}

theorem sound_empty : (empty : Store β).Sound where
  live _ _ := nofun
  alone _ _ _ := nofun
  once := List.nodup_nil
  bounded := Heap.bounded_empty
  gone _ := nofun

/-- Two objects have the same pointer only if they are one. -/
theorem Owned.pointers_eq_iff (h : s.Owned) (at_x : s.pointers x = some p) (y : Nat) :
    s.pointers x = s.pointers y ↔ x = y := by
  constructor
  · intro same
    exact h.alone x y p at_x (same ▸ at_x)
  · rintro rfl
    rfl

theorem Sound.construct (h : s.Sound) (x : Nat) (b : β) : (s.construct x b).Sound := by
  have pointer_x : (s.construct x b).pointers x = some s.fresh := Heap.pointers_point_self ..
  have pointer_ne : ∀ {y}, y ≠ x → (s.construct x b).pointers y = s.pointers y :=
    fun other => Heap.pointers_point_of_ne other _
  have cells_ne : ∀ {q}, q < s.fresh → (s.construct x b).cells q = s.cells q :=
    fun below => Heap.cells_alloc_of_ne (Nat.ne_of_lt below) b
  have fresh_live : (s.construct x b).cells s.fresh ≠ none := by
    rw [show (s.construct x b).cells s.fresh = some b from Heap.cells_alloc_fresh ..]
    exact Option.some_ne_none b
  refine ⟨⟨?_, ?_, h.once⟩, ?_, ?_⟩
  · intro y q at_y
    rcases eq_or_ne y x with rfl | other
    · rw [pointer_x] at at_y
      exact Option.some.inj at_y ▸ fresh_live
    · rw [pointer_ne other] at at_y
      rw [cells_ne (h.bounded.pointers y q at_y)]
      exact h.live y q at_y
  · intro y z q at_y at_z
    by_cases hy : y = x <;> by_cases hz : z = x
    · exact hy.trans hz.symm
    · rw [hy, pointer_x] at at_y
      rw [pointer_ne hz] at at_z
      exact absurd (h.bounded.pointers z q at_z) (Option.some.inj at_y ▸ Nat.lt_irrefl _)
    · rw [hz, pointer_x] at at_z
      rw [pointer_ne hy] at at_y
      exact absurd (h.bounded.pointers y q at_y) (Option.some.inj at_z ▸ Nat.lt_irrefl _)
    · rw [pointer_ne hy] at at_y
      rw [pointer_ne hz] at at_z
      exact h.alone y z q at_y at_z
  · exact (h.bounded.alloc b).point x fun q eq => Option.some.inj eq ▸ Nat.lt_succ_self _
  · intro q released
    obtain ⟨below, dead⟩ := h.gone q released
    exact ⟨Nat.lt_succ_of_lt below, by rw [cells_ne below, dead]⟩

theorem Sound.set (h : s.Sound) (x : Nat) (f : β → β) : (s.set x f).Sound := by
  cases at_x : s.pointers x with
  | none => simpa only [Store.set, at_x] using h
  | some p =>
    have written : s.set x f = { s with toHeap := s.setCell p ((s.cells p).map f) } := by rw [Store.set, at_x]
    have dead_iff : ∀ q, (s.set x f).cells q = none ↔ s.cells q = none := by
      intro q
      rw [written]
      rcases eq_or_ne q p with rfl | other
      · simp
      · simp [Heap.cells_setCell_of_ne other]
    have pointers : (s.set x f).pointers = s.pointers := by rw [written]; rfl
    refine ⟨⟨fun y q at_y => ?_, fun y z q at_y at_z => ?_, ?_⟩, ?_, fun q released => ?_⟩
    · rw [pointers] at at_y
      exact fun dead => h.live y q at_y ((dead_iff q).mp dead)
    · rw [pointers] at at_y at_z
      exact h.alone y z q at_y at_z
    · rw [written]
      exact h.once
    · rw [written]
      exact h.bounded.setCell (h.bounded.pointers x p at_x) _
    · rw [dead_iff]
      rw [written] at released ⊢
      exact h.gone q released

theorem Sound.destroy (h : s.Sound) (x : Nat) : (s.destroy x).Sound := by
  cases at_x : s.pointers x with
  | none => simpa only [Store.destroy, at_x] using h
  | some p =>
    rw [Store.destroy, at_x]
    have pointer_ne : ∀ {y q}, ((s.setCell p none).point x none).pointers y = some q →
        y ≠ x ∧ s.pointers y = some q := by
      intro y q at_y
      rcases eq_or_ne y x with rfl | other
      · rw [Heap.pointers_point_self] at at_y
        cases at_y
      · rw [Heap.pointers_point_of_ne other] at at_y
        exact ⟨other, at_y⟩
    refine ⟨⟨fun y q at_y => ?_, fun y z q at_y at_z => ?_, ?_⟩, ?_, fun q released => ?_⟩
    · obtain ⟨other, before⟩ := pointer_ne at_y
      have apart : q ≠ p := fun same => other (h.alone y x q before (same ▸ at_x))
      rw [Heap.cells_point, Heap.cells_setCell_of_ne apart]
      exact h.live y q before
    · exact h.alone y z q (pointer_ne at_y).2 (pointer_ne at_z).2
    · exact List.nodup_cons.mpr ⟨fun again => h.live x p at_x (h.gone p again).2, h.once⟩
    · have below := h.bounded.pointers x p at_x
      exact (h.bounded.setCell below none).point x fun q gone => nomatch gone
    · rcases List.mem_cons.mp released with rfl | earlier
      · exact ⟨h.bounded.pointers x q at_x, Heap.cells_setCell_self s.toHeap q none⟩
      · obtain ⟨below, dead⟩ := h.gone q earlier
        refine ⟨below, ?_⟩
        rcases eq_or_ne q p with rfl | other
        · exact Heap.cells_setCell_self s.toHeap q none
        · rw [Heap.cells_point, Heap.cells_setCell_of_ne other, dead]

/-- A write through one object changes no other. -/
theorem Owned.held_set_of_ne (h : s.Owned) (f : β → β) (other : y ≠ x) : (s.set x f).held y = s.held y := by
  cases at_x : s.pointers x with
  | none => simp only [Store.set, at_x]
  | some p =>
    rw [Store.set, at_x, Heap.held, Heap.held, Heap.pointers_setCell]
    cases at_y : s.pointers y with
    | none => rfl
    | some q =>
      have apart : q ≠ p := fun same => other (h.alone y x q at_y (same ▸ at_x))
      rw [Option.bind_some, Option.bind_some, Heap.cells_setCell_of_ne apart]

/-- After an assignment between two objects the cell has two owners. -/
theorem not_owned_assign (at_y : s.pointers y = some p) (apart : x ≠ y) : ¬(s.assign x y).Owned := by
  intro h
  have pointer_x : (s.assign x y).pointers x = some p := (Heap.pointers_point_self ..).trans at_y
  have pointer_y : (s.assign x y).pointers y = some p := (Heap.pointers_point_of_ne apart.symm _).trans at_y
  exact apart (h.alone x y p pointer_x pointer_y)

theorem destroy_of_pointer (at_x : s.pointers x = some p) :
    s.destroy x = ⟨(s.setCell p none).point x none, p :: s.released⟩ := by rw [destroy, at_x]

/-- A temporary object comes and goes without a trace in the others. -/
theorem destroy_construct (h : s.Bounded) (b : β) (unused : s.pointers x = none) :
    ((s.construct x b).destroy x).Bounded ∧ ((s.construct x b).destroy x).pointers = s.pointers ∧
      ((s.construct x b).destroy x).held = s.held := by
  have bounded : (s.construct x b).Bounded :=
    (h.alloc b).point x fun q eq => Option.some.inj eq ▸ Nat.lt_succ_self _
  have at_x : (s.construct x b).pointers x = some s.fresh := Heap.pointers_point_self ..
  have pointers : Function.update (Function.update s.pointers x (some s.fresh)) x none = s.pointers := by
    rw [Function.update_idem, ← unused, Function.update_eq_self]
  rw [destroy_of_pointer at_x]
  refine ⟨?_, pointers, funext fun y => ?_⟩
  · exact (bounded.setCell (bounded.pointers x _ at_x) none).point x fun q gone => nomatch gone
  · change (Function.update (Function.update s.pointers x (some s.fresh)) x none y).bind
      (Function.update (Function.update s.cells s.fresh (some b)) s.fresh none) = (s.pointers y).bind s.cells
    rw [pointers]
    cases at_y : s.pointers y with
    | none => rfl
    | some q =>
      have older := Nat.ne_of_lt (h.pointers y q at_y)
      rw [Option.bind_some, Option.bind_some, Function.update_of_ne older, Function.update_of_ne older]

/-- An object that was assigned a temporary one is left with the cell that went with it. -/
theorem destroy_assign_construct (h : s.Bounded) (b : β) (unused : s.pointers x = none) (apart : y ≠ x) :
    (((s.construct x b).assign y x).destroy x).Bounded ∧
      (((s.construct x b).assign y x).destroy x).pointers = Function.update s.pointers y (some s.fresh) ∧
      (((s.construct x b).assign y x).destroy x).held = Function.update s.held y none := by
  have bounded : (s.construct x b).Bounded :=
    (h.alloc b).point x fun q eq => Option.some.inj eq ▸ Nat.lt_succ_self _
  have made : (s.construct x b).pointers x = some s.fresh := Heap.pointers_point_self ..
  have below : s.fresh < (s.construct x b).fresh := Nat.lt_succ_self _
  have assigned : ((s.construct x b).assign y x).Bounded :=
    bounded.point y fun q eq => Option.some.inj (made.symm.trans eq) ▸ below
  have at_x : ((s.construct x b).assign y x).pointers x = some s.fresh := by
    rw [assign, Heap.pointers_point_of_ne apart.symm, made]
  have pointers : Function.update (Function.update (Function.update s.pointers x (some s.fresh)) y
      ((s.construct x b).pointers x)) x none = Function.update s.pointers y (some s.fresh) := by
    rw [made, Function.update_comm apart.symm, Function.update_idem, Function.update_comm apart,
      ← unused, Function.update_eq_self]
  rw [destroy_of_pointer at_x]
  refine ⟨?_, pointers, funext fun z => ?_⟩
  · exact (assigned.setCell below none).point x fun q gone => nomatch gone
  · change (Function.update (Function.update (Function.update s.pointers x (some s.fresh)) y
      ((s.construct x b).pointers x)) x none z).bind
      (Function.update (Function.update s.cells s.fresh (some b)) s.fresh none) = Function.update s.held y none z
    rw [pointers]
    rcases eq_or_ne z y with rfl | other
    · rw [Function.update_self, Function.update_self, Option.bind_some, Function.update_self]
    · rw [Function.update_of_ne other, Function.update_of_ne other, Heap.held]
      cases at_z : s.pointers z with
      | none => rfl
      | some q =>
        have older := Nat.ne_of_lt (h.pointers z q at_z)
        rw [Option.bind_some, Option.bind_some, Function.update_of_ne older, Function.update_of_ne older]

theorem assign_self (s : Store β) (x : Nat) : s.assign x x = s := by
  rw [assign, Heap.point, Function.update_eq_self]

end Store

end ObjectHeap
