import CanSocket.OptionStore
import CanSocket.SharedValues

namespace CanSocket

open ObjectHeap

/-- A public operation that reaches for the payload of a `CanRawFilterArray` through the non-const pointer; a write
through `data()` has the contract that `i` lies inside the array. -/
inductive FilterOp
  | resize (size : Nat)
  | append (filter : CanRawFilter)
  | write (i : Nat) (filter : CanRawFilter)
deriving DecidableEq, Repr

def FilterOp.apply (filterArray : List CanRawFilter) : FilterOp → List CanRawFilter
  | .resize size => filterArray.take size ++ List.replicate (size - filterArray.length) {}
  | .append filter => filterArray ++ [filter]
  | .write i filter => filterArray.set i filter

/-- What a program with filter arrays can see: comparisons, contents, what the kernel is handed, a changed signal. -/
inductive FilterEvent
  | equal (answer : Bool)
  | read (filterArray : List CanRawFilter)
  | setsockopt (filterArray : List CanRawFilter) (answer : Option Errno)
  | canFilterChanged
deriving DecidableEq, Repr

/-- One step of a program with `CanRawFilterArray` objects and the array a socket stores. The setter and the getter
of the socket name the objects that live while they run: the one inside the variant, and the one taken from it. -/
inductive FilterStep
  | construct (x : Nat)
  | constructSize (x : Nat) (size : Nat)
  | constructFilled (x : Nat) (size : Nat) (filter : CanRawFilter)
  | assign (x y : Nat)
  | swap (x y : Nat)
  | destroy (x : Nat)
  | change (x : Nat) (op : FilterOp)
  | constData (x : Nat)
  | equal (x y : Nat)
  | setCanFilter (stored x variant copied : Nat) (answer : Option Errno)
  | canFilter (stored x variant : Nat)
deriving DecidableEq, Repr

/-- The objects inside a call of the socket are new, and what it is called on exists. -/
def FilterStep.inScope (inUse : Nat → Bool) : FilterStep → Bool
  | .setCanFilter stored x variant copied _ =>
    inUse stored && inUse x && !inUse variant && !inUse copied && variant != copied
  | .canFilter stored x variant => inUse stored && !inUse variant && variant != x
  | .equal x y => inUse x && inUse y
  | .constData x => inUse x
  | .change x _ => inUse x
  | _ => true

abbrev FilterHeap := Heap (Nat × List CanRawFilter)

/-- The `CanFilterOption` case of `setSocketOption`, called with a copy inside a variant. -/
def setCanFilter (h : FilterHeap) (stored x variant copied : Nat) (answer : Option Errno) :
    FilterHeap × List FilterEvent :=
  let h := (h.assign variant x).assign copied variant
  -- `newCanFilter.data()` is not const
  let h := h.detach copied
  let told := FilterEvent.setsockopt ((h.value copied).getD []) answer
  match answer with
  | some _ => ((h.destroy copied).destroy variant, [told])
  | none =>
    if h.value copied ≠ h.value stored then
      (((h.assign stored copied).destroy copied).destroy variant, [told, .canFilterChanged])
    else ((h.destroy copied).destroy variant, [told])

def FilterStep.after (h : FilterHeap) : FilterStep → FilterHeap × List FilterEvent
  | .construct x => (h.construct x [], [])
  | .constructSize x size => (h.construct x (List.replicate size {}), [])
  | .constructFilled x size filter => (h.construct x (List.replicate size filter), [])
  | .assign x y => (h.assign x y, [])
  | .swap x y => (h.swap x y, [])
  | .destroy x => (h.destroy x, [])
  | .change x op => (h.modify x (op.apply ((h.value x).getD [])), [])
  | .constData x => (h, [.read ((h.value x).getD [])])
  -- the contents are compared
  | .equal x y => (h, [.equal (h.value x == h.value y)])
  | .setCanFilter stored x variant copied answer => CanSocket.setCanFilter h stored x variant copied answer
  | .canFilter stored x variant => (((h.assign variant stored).assign x variant).destroy variant, [])

def FilterStep.exec (run : FilterHeap × List FilterEvent) (step : FilterStep) :
    Option (FilterHeap × List FilterEvent) :=
  if step.inScope fun x => (run.1.pointers x).isSome then
    some ((step.after run.1).1, run.2 ++ (step.after run.1).2)
  else none

def filterHeap (program : List FilterStep) : Option (FilterHeap × List FilterEvent) :=
  program.foldlM FilterStep.exec (Heap.empty, [])

/-- The step on arrays that share nothing. -/
def FilterStep.afterOnValues (values : Values (List CanRawFilter)) :
    FilterStep → Values (List CanRawFilter) × List FilterEvent
  | .construct x => (values.put x [], [])
  | .constructSize x size => (values.put x (List.replicate size {}), [])
  | .constructFilled x size filter => (values.put x (List.replicate size filter), [])
  | .assign x y => (values.assign x y, [])
  | .swap x y => (values.swap x y, [])
  | .destroy x => (values.destroy x, [])
  | .change x op => (values.put x (op.apply ((values x).getD [])), [])
  | .constData x => (values, [.read ((values x).getD [])])
  | .equal x y => (values, [.equal (values x == values y)])
  | .setCanFilter stored x _ _ answer =>
    let told := FilterEvent.setsockopt ((values x).getD []) answer
    if answer = none ∧ values x ≠ values stored then (values.assign stored x, [told, .canFilterChanged])
    else (values, [told])
  | .canFilter stored x _ => (values.assign x stored, [])

def FilterStep.onValues (run : Values (List CanRawFilter) × List FilterEvent) (step : FilterStep) :
    Option (Values (List CanRawFilter) × List FilterEvent) :=
  if step.inScope fun x => (run.1 x).isSome then
    some ((step.afterOnValues run.1).1, run.2 ++ (step.afterOnValues run.1).2)
  else none

def filterValues (program : List FilterStep) : Option (Values (List CanRawFilter) × List FilterEvent) :=
  program.foldlM FilterStep.onValues (Values.empty, [])

variable {h : FilterHeap} {values : Values (List CanRawFilter)}

theorem isSome_pointers (shows : Shows h values) (x : Nat) : (h.pointers x).isSome = (values x).isSome := by
  have value := shows.value x
  cases at_x : values x with
  | some a =>
    obtain ⟨p, at_p⟩ := shows.pointer at_x
    rw [at_p]
    rfl
  | none =>
    cases at_p : h.pointers x with
    | none => rfl
    | some p =>
      obtain ⟨cell, live⟩ := Option.ne_none_iff_exists'.mp (shows.counted.live at_p)
      simp [Heap.value, Heap.payload, at_p, live, at_x] at value

/-- The objects inside a call of the setter leave nothing behind. -/
theorem setCanFilter_shows (shows : Shows h values) {stored x variant copied : Nat} (answer : Option Errno)
    (scope : (FilterStep.setCanFilter stored x variant copied answer).inScope (fun x => (values x).isSome) = true) :
    let t := setCanFilter h stored x variant copied answer
    let r := (FilterStep.setCanFilter stored x variant copied answer).afterOnValues values
    Shows t.1 r.1 ∧ t.2 = r.2 := by
  simp only [FilterStep.inScope, Bool.and_eq_true, Option.isSome_iff_exists, Bool.not_eq_true', bne_iff_ne, ne_eq,
    Option.isSome_eq_false_iff, Option.isNone_iff_eq_none] at scope
  obtain ⟨⟨⟨⟨⟨old, at_stored⟩, new, at_x⟩, no_variant⟩, no_copied⟩, apart⟩ := scope
  have stored_variant : stored ≠ variant := by rintro rfl; simp [no_variant] at at_stored
  have stored_copied : stored ≠ copied := by rintro rfl; simp [no_copied] at at_stored
  let inside := (values.put variant new).put copied new
  have at_copied : inside copied = some new := Values.put_self ..
  have held : Shows (((h.assign variant x).assign copied variant).detach copied) inside := by
    have first := shows.assign variant x
    rw [Values.assign_of_value at_x] at first
    have second := first.assign copied variant
    rw [Values.assign_of_value (Values.put_self values variant new)] at second
    exact second.detach at_copied
  have at_held : inside stored = some old :=
    (Values.put_of_ne _ new stored_copied).trans ((Values.put_of_ne values new stored_variant).trans at_stored)
  have left : (inside.destroy copied).destroy variant = values := by
    funext z
    by_cases hv : z = variant
    · simp [Values.destroy, hv, no_variant]
    · by_cases hc : z = copied
      · simp [Values.destroy, hc, no_copied, Ne.symm apart]
      · simp [Values.destroy, inside, hv, hc, Values.put_of_ne]
  have kept := (held.destroy copied).destroy variant
  rw [left] at kept
  have told := (held.value copied).trans at_copied
  have before := (held.value stored).trans at_held
  dsimp only [setCanFilter, FilterStep.afterOnValues]
  rw [told, before, at_x, at_stored]
  cases answer with
  | some e => exact ⟨by simpa using kept, by simp⟩
  | none =>
    by_cases same : new = old
    · exact ⟨by simpa [same] using kept, by simp [same]⟩
    · have taken := ((held.assign stored copied).destroy copied).destroy variant
      have result : (((inside.assign stored copied).destroy copied).destroy variant) = values.assign stored x := by
        rw [Values.assign_of_value at_copied, Values.assign_of_value at_x]
        funext z
        have at_z := congrFun left z
        rcases eq_or_ne z stored with rfl | other
        · simp [Values.destroy, stored_variant, stored_copied]
        · rw [Values.put_of_ne values new other, ← at_z]
          simp [Values.destroy, Function.update_apply, Values.put, other]
      rw [result] at taken
      exact ⟨by simpa [same] using taken, by simp [same]⟩

/-- What a step leaves and shows is what it leaves and shows on values. -/
theorem FilterStep.shows (shows : Shows h values) {step : FilterStep}
    (scope : step.inScope (fun x => (values x).isSome) = true) :
    Shows (step.after h).1 (step.afterOnValues values).1 ∧ (step.after h).2 = (step.afterOnValues values).2 := by
  cases step with
  | construct x => exact ⟨shows.construct x _, rfl⟩
  | constructSize x size => exact ⟨shows.construct x _, rfl⟩
  | constructFilled x size filter => exact ⟨shows.construct x _, rfl⟩
  | assign x y => exact ⟨shows.assign x y, rfl⟩
  | swap x y => exact ⟨shows.swap x y, rfl⟩
  | destroy x => exact ⟨shows.destroy x, rfl⟩
  | change x op =>
    obtain ⟨a, at_x⟩ := Option.isSome_iff_exists.mp scope
    simp only [after, afterOnValues, shows.value x]
    exact ⟨shows.modify at_x _, trivial⟩
  | constData x => exact ⟨shows, by simp [after, afterOnValues, shows.value x]⟩
  | equal x y => exact ⟨shows, by simp [after, afterOnValues, shows.value x, shows.value y]⟩
  | setCanFilter stored x variant copied answer => exact setCanFilter_shows shows answer scope
  | canFilter stored x variant =>
    simp only [inScope, Bool.and_eq_true, Option.isSome_iff_exists, Bool.not_eq_true', bne_iff_ne, ne_eq,
      Option.isSome_eq_false_iff, Option.isNone_iff_eq_none] at scope
    obtain ⟨⟨⟨a, at_stored⟩, unused⟩, apart⟩ := scope
    have taken := ((shows.assign variant stored).assign x variant).destroy variant
    have result : (((values.assign variant stored).assign x variant).destroy variant) = values.assign x stored := by
      rw [Values.assign_of_value at_stored, Values.assign_of_value (Values.put_self values variant a),
        Values.assign_of_value at_stored]
      funext z
      rcases eq_or_ne z variant with rfl | other
      · simp [Values.destroy, Values.put, apart, unused]
      · simp [Values.destroy, Values.put, Function.update_apply, other]
    rw [result] at taken
    exact ⟨taken, rfl⟩

/-- The runs stand still together, or both go on with the same events. -/
def RunsAlike (run : FilterHeap × List FilterEvent) (plain : Values (List CanRawFilter) × List FilterEvent) : Prop :=
  Shows run.1 plain.1 ∧ run.2 = plain.2

theorem filterHeap_alike (program : List FilterStep) :
    Option.Rel RunsAlike (filterHeap program) (filterValues program) := by
  induction program using List.reverseRecOn with
  | nil => exact .some ⟨Shows.empty, rfl⟩
  | append_singleton program last ih =>
    have heap : filterHeap (program ++ [last]) = (filterHeap program).bind last.exec := by
      simp [filterHeap, List.foldlM_append]
    have plain : filterValues (program ++ [last]) = (filterValues program).bind last.onValues := by
      simp [filterValues, List.foldlM_append]
    rw [heap, plain]
    generalize filterHeap program = run at ih
    generalize filterValues program = run' at ih
    cases ih with
    | none => exact .none
    | @some run run' alike =>
      obtain ⟨shows, events⟩ := alike
      have names : (fun x => (run.1.pointers x).isSome) = fun x => (run'.1 x).isSome := funext (isSome_pointers shows)
      change Option.Rel RunsAlike (last.exec run) (last.onValues run')
      rw [FilterStep.exec, FilterStep.onValues, names]
      split
      next scope =>
        obtain ⟨after, told⟩ := last.shows shows scope
        exact .some ⟨after, by rw [events, told]⟩
      next => exact .none

/-- A program cannot tell that filter arrays share their payloads, be they its own or the one a socket stores: with
arrays that share nothing it sees the same answers, contents and signals, hands the kernel the same filters, and ends
with the same arrays. Payloads are counted exactly and live as long as an array needs them. -/
theorem filter_sharing_unseen (program : List FilterStep) :
    filterHeap program = none ∧ filterValues program = none ∨
      ∃ h values events, filterHeap program = some (h, events) ∧ filterValues program = some (values, events) ∧
        (∀ x, h.value x = values x) ∧ (∀ p, (h.owners p).encard = h.count p) ∧
        ∀ p, h.cells p ≠ none ↔ ∃ x, h.pointers x = some p := by
  have related := filterHeap_alike program
  generalize filterHeap program = run at related
  generalize filterValues program = plain at related
  cases related with
  | none => exact Or.inl ⟨rfl, rfl⟩
  | @some run plain alike =>
    obtain ⟨h, events⟩ := run
    obtain ⟨values, events'⟩ := plain
    obtain ⟨shows, same⟩ := alike
    obtain rfl : events = events' := same
    exact Or.inr ⟨h, values, events, rfl, rfl, shows.value, shows.counted.exact,
      Heap.live_iff_owned shows.counted shows.unleaked⟩

/-- On values, the stored array and the changed signal are those of the socket. -/
theorem setCanFilter_onSocket {s : Socket} {o : CanRawOptions} (raw : s.protocol = .raw o) (live : s.descriptor ≠ -1)
    {stored x : Nat} {new : List CanRawFilter} (at_stored : values stored = some o.canFilter)
    (at_x : values x = some new) (variant copied : Nat) (answer : Option Errno) :
    let t := (s.setSocketOption Slot.idle (.canFilterOption new) answer).2
    let r := (FilterStep.setCanFilter stored x variant copied answer).afterOnValues values
    (∃ o', t.protocol = .raw o' ∧ r.1 stored = some o'.canFilter) ∧
      ∃ events, t.trace = s.trace ++ events ∧
        (Event.signal .canFilterChanged ∈ events ↔ FilterEvent.canFilterChanged ∈ r.2) := by
  simp only [Socket.setSocketOption, raw, Socket.setRawOption, Socket.applyOption, Socket.setsockopt, if_neg live,
    FilterStep.afterOnValues, at_x, at_stored]
  cases answer with
  | some e =>
    refine ⟨⟨o, raw, by simp [at_stored]⟩, [.setsockopt s.descriptor (.canRawFilter new) (some e),
      .signal (.error (getSystemError e).errorCode)], ?_, by simp⟩
    simp [Socket.setSystemError, Socket.setError, Socket.emit, Slot.idle, Socket.log, Socket.setErrno]
  | none =>
    by_cases same : new = o.canFilter
    · exact ⟨⟨o, by simpa [same, Socket.log] using raw, by simp [same, at_stored]⟩,
        [.setsockopt s.descriptor (.canRawFilter new) none], by simp [same, Socket.log], by simp [same]⟩
    · refine ⟨⟨{ o with canFilter := new }, by simp [same, Socket.emit, Slot.idle, Socket.log, Socket.withRaw], ?_⟩,
        [.setsockopt s.descriptor (.canRawFilter new) none, .signal .canFilterChanged], ?_, by simp [same]⟩
      · simp [same, Values.assign_of_value at_x]
      · simp [same, Socket.emit, Slot.idle, Socket.log, Socket.withRaw]

/-- The caller changes its array after the call, and the socket keeps the one it was given. -/
example : (filterHeap [.constructFilled 0 1 {}, .constructSize 1 1, .change 1 (.write 0 ⟨0x1ab, 0x7ff⟩),
      .setCanFilter 0 1 2 3 none, .change 1 (.append {}), .canFilter 0 4 5, .constData 4, .equal 4 1]).map Prod.snd =
    some [.setsockopt [⟨0x1ab, 0x7ff⟩] none, .canFilterChanged, .read [⟨0x1ab, 0x7ff⟩], .equal false] := by decide

end CanSocket
