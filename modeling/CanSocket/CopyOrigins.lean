import CanSocket.SharedPayload

namespace ObjectHeap

universe u

variable {α : Type u}

/-- Objects as values. Each value carries the number of the write it comes from, copies with it. -/
structure Origins (α : Type u) where
  objects : Nat → Option (α × Nat)
  writes : Nat

namespace Origins

def empty : Origins α := ⟨fun _ => none, 0⟩

/-- A value written to an object, or the first value of a new one. -/
def put (t : Origins α) (x : Nat) (a : α) : Origins α :=
  ⟨Function.update t.objects x (some (a, t.writes)), t.writes + 1⟩

def assign (t : Origins α) (x y : Nat) : Origins α :=
  match t.objects y with
  | some v => { t with objects := Function.update t.objects x (some v) }
  | none => t

def destroy (t : Origins α) (x : Nat) : Origins α := { t with objects := Function.update t.objects x none }

def swap (t : Origins α) (x y : Nat) : Origins α := { t with objects := fun z => t.objects (Equiv.swap x y z) }

@[simp] theorem objects_put_self (t : Origins α) (x : Nat) (a : α) :
    (t.put x a).objects x = some (a, t.writes) := Function.update_self ..

theorem objects_put_of_ne (t : Origins α) (a : α) {x y : Nat} (other : y ≠ x) :
    (t.put x a).objects y = t.objects y := Function.update_of_ne other ..

end Origins

/-- A heap of shared payloads shows the values, and its objects share a cell when and only
when their values come from one write. -/
structure Tracks (h : Heap (Nat × α)) (t : Origins α) : Prop where
  counted : h.Counted
  values : ∀ x, h.value x = (t.objects x).map Prod.fst
  shared : ∀ x y v w, t.objects x = some v → t.objects y = some w → (h.pointers x = h.pointers y ↔ v.2 = w.2)
  past : ∀ x v, t.objects x = some v → v.2 < t.writes

namespace Tracks

variable {h g : Heap (Nat × α)} {t : Origins α} {x y p : Nat} {a : α}

theorem empty : Tracks (Heap.empty : Heap (Nat × α)) Origins.empty where
  counted := ⟨Heap.bounded_empty, fun p => by simp [Heap.owners, Heap.empty, Heap.count]⟩
  values _ := rfl
  shared _ _ _ _ at_x := nomatch at_x
  past _ _ at_x := nomatch at_x

theorem pointer_of_object (tracks : Tracks h t) {v : α × Nat} (at_x : t.objects x = some v) :
    ∃ p, h.pointers x = some p := by
  have value := tracks.values x
  rw [at_x, Heap.value] at value
  obtain ⟨p, at_p, _⟩ := Option.bind_eq_some_iff.mp value
  exact ⟨p, at_p⟩

theorem object_of_pointer (tracks : Tracks h t) (at_x : h.pointers x = some p) : t.objects x ≠ none := by
  intro gone
  have value := tracks.values x
  rw [gone, Heap.value, at_x, Option.bind_some, Heap.payload, Option.map_none, Option.map_eq_none_iff] at value
  exact tracks.counted.live at_x value

/-- A step that leaves one object alone at its cell with a value of its own, and no other object
changed, is a write. -/
theorem put (tracks : Tracks h t) (counted : g.Counted) (at_x : g.pointers x = some p)
    (alone : ∀ y, y ≠ x → g.pointers y ≠ some p) (same : ∀ y, y ≠ x → g.pointers y = h.pointers y)
    (values : ∀ y, y ≠ x → g.value y = h.value y) (written : g.value x = some a) : Tracks g (t.put x a) where
  counted := counted
  values y := by
    rcases eq_or_ne y x with rfl | other
    · simpa [Origins.put] using written
    · rw [values y other, tracks.values y]
      simp [Origins.put, other]
  shared y z v w at_y at_z := by
    by_cases hy : y = x <;> by_cases hz : z = x
    · subst hy hz
      simp [Option.some.inj (at_y.symm.trans at_z)]
    · subst hy
      rw [Origins.objects_put_of_ne t a hz] at at_z
      rw [Origins.objects_put_self] at at_y
      have older := tracks.past z w at_z
      have apart : g.pointers y ≠ g.pointers z := fun eq => alone z hz (eq ▸ at_x)
      exact iff_of_false apart (Option.some.inj at_y ▸ (Nat.ne_of_lt older).symm)
    · subst hz
      rw [Origins.objects_put_of_ne t a hy] at at_y
      rw [Origins.objects_put_self] at at_z
      have older := tracks.past y v at_y
      have apart : g.pointers y ≠ g.pointers z := fun eq => alone y hy (eq ▸ at_x)
      exact iff_of_false apart (Option.some.inj at_z ▸ Nat.ne_of_lt older)
    · rw [Origins.objects_put_of_ne t a hy] at at_y
      rw [Origins.objects_put_of_ne t a hz] at at_z
      rw [same y hy, same z hz]
      exact tracks.shared y z v w at_y at_z
  past y v at_y := by
    rcases eq_or_ne y x with rfl | other
    · rw [Origins.objects_put_self] at at_y
      exact Option.some.inj at_y ▸ Nat.lt_succ_self _
    · exact Nat.lt_succ_of_lt (tracks.past y v (by rwa [Origins.objects_put_of_ne t a other] at at_y))

/-- A step after which every name stands for what some name stood for before. -/
theorem rename (tracks : Tracks h t) (counted : g.Counted) (source : Nat → Nat)
    (pointers : ∀ z, g.pointers z = h.pointers (source z)) (values : ∀ z, g.value z = h.value (source z)) :
    Tracks g { t with objects := fun z => t.objects (source z) } where
  counted := counted
  values z := by rw [values z, tracks.values]
  shared y z v w at_y at_z := by
    rw [pointers y, pointers z]
    exact tracks.shared _ _ v w at_y at_z
  past z v at_z := tracks.past (source z) v at_z

theorem construct (tracks : Tracks h t) (x : Nat) (a : α) : Tracks (h.construct x a) (t.put x a) := by
  have bounded := tracks.counted.bounded
  refine tracks.put (tracks.counted.construct x a) (p := h.fresh) (by simp) ?_ (fun y other => by simp [other])
    (fun y other => Heap.value_construct_of_ne tracks.counted a other) (Heap.value_construct_self tracks.counted x a)
  intro y other at_y
  have before : h.pointers y = some h.fresh := by simpa [other] using at_y
  exact absurd (bounded.pointers y h.fresh before) (Nat.lt_irrefl _)

theorem modify (tracks : Tracks h t) {v : α × Nat} (at_x : t.objects x = some v) (a : α) :
    Tracks (h.modify x a) (t.put x a) := by
  obtain ⟨q, old⟩ := tracks.pointer_of_object at_x
  obtain ⟨counted, same, values, p, new, alone⟩ := tracks.counted.detach old
  refine tracks.put (counted.store new a) (p := p) ?_ ?_ ?_ ?_ (Heap.value_store_self counted new a)
  · rw [Heap.pointers_modify, new]
  · intro y other
    rw [Heap.pointers_modify]
    exact alone y other
  · intro y other
    rw [Heap.pointers_modify, same y other]
  · intro y other
    rw [Heap.modify, Heap.value_store_of_ne new a (alone y other), values y]

theorem assign (tracks : Tracks h t) (x y : Nat) : Tracks (h.assign x y) (t.assign x y) := by
  cases at_y : t.objects y with
  | none =>
    have nobody : h.pointers y = none := by
      by_contra there
      obtain ⟨p, at_p⟩ := Option.ne_none_iff_exists'.mp there
      exact tracks.object_of_pointer at_p at_y
    simpa [Heap.assign, Origins.assign, nobody, at_y] using tracks
  | some v =>
    obtain ⟨p, at_p⟩ := tracks.pointer_of_object at_y
    have copied : t.assign x y = { t with objects := fun z => t.objects (if z = x then y else z) } := by
      rw [Origins.assign, at_y]
      refine congrArg (Origins.mk · t.writes) (funext fun z => ?_)
      by_cases same : z = x <;> simp [same, at_y]
    rw [copied]
    by_cases already : h.pointers x = some p
    · rw [Heap.assign_of_pointer at_p, if_pos already]
      refine tracks.rename tracks.counted _ (fun z => ?_) fun z => ?_ <;> by_cases same : z = x
      · rw [if_pos same, same, already, at_p]
      · rw [if_neg same]
      · rw [if_pos same, same, Heap.value, Heap.value, already, at_p]
      · rw [if_neg same]
    · rw [Heap.assign_of_pointer at_p, if_neg already]
      have live := tracks.counted.live at_p
      have lives : ∀ q, some p = some q → h.cells q ≠ none := fun q eq => Option.some.inj eq ▸ live
      refine tracks.rename (tracks.counted.redirect x lives) _ (fun z => ?_) fun z => ?_ <;> by_cases same : z = x
      · simp [same, at_p]
      · simp [same]
      · rw [if_pos same, same, Heap.value_redirect_self tracks.counted live, Heap.value, at_p, Option.bind_some]
      · rw [if_neg same, Heap.value_redirect_of_ne tracks.counted lives same]

theorem destroy (tracks : Tracks h t) (x : Nat) : Tracks (h.destroy x) (t.destroy x) where
  counted := tracks.counted.redirect x (by rintro p ⟨⟩)
  values y := by
    rcases eq_or_ne y x with rfl | other
    · simp [Heap.destroy, Heap.value, Origins.destroy]
    · rw [Heap.destroy, Heap.value_redirect_of_ne tracks.counted (by rintro p ⟨⟩) other, tracks.values y]
      simp [Origins.destroy, other]
  shared y z v w at_y at_z := by
    have hy : y ≠ x := by rintro rfl; simp [Origins.destroy] at at_y
    have hz : z ≠ x := by rintro rfl; simp [Origins.destroy] at at_z
    simpa [Heap.destroy, hy, hz] using
      tracks.shared y z v w (by simpa [Origins.destroy, hy] using at_y) (by simpa [Origins.destroy, hz] using at_z)
  past y v at_y := by
    have hy : y ≠ x := by rintro rfl; simp [Origins.destroy] at at_y
    exact tracks.past y v (by simpa [Origins.destroy, hy] using at_y)

theorem swap (tracks : Tracks h t) (x y : Nat) : Tracks (h.swap x y) (t.swap x y) :=
  tracks.rename (tracks.counted.swap x y) (Equiv.swap x y) (fun _ => rfl) fun _ => rfl

end Tracks

end ObjectHeap
