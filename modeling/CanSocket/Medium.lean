import Mathlib.Data.List.Basic
import Mathlib.Logic.Function.Basic

namespace Medium

universe u v

variable {ι : Type u} {α : Type v}

/-- What happens on a medium many parties share: one puts something on it, one takes what has reached it, or something
is lost that waits for one of them. -/
inductive Act (ι : Type u) (α : Type v)
  | put (sender : ι) (a : α)
  | take (receiver : ι) (a : α)
  | lose (receiver : ι) (position : Nat)

def Act.entry : Act ι α → Option (ι × α)
  | .put i a => some (i, a)
  | _ => none

/-- Everything that was put on the medium, with its sender. -/
def log (acts : List (Act ι α)) : List (ι × α) := acts.filterMap Act.entry

def heard (hears : ι → ι → α → Bool) (j : ι) (log : List (ι × α)) : List α :=
  (log.filter fun entry => hears j entry.1 entry.2).map Prod.snd

def LossFree (j : ι) (acts : List (Act ι α)) : Prop := ∀ position, Act.lose j position ∉ acts

theorem heard_cons (hears : ι → ι → α → Bool) (j : ι) (act : Act ι α) (acts : List (Act ι α)) :
    heard hears j (log (act :: acts)) = heard hears j (log [act]) ++ heard hears j (log acts) := by
  have logged : log (act :: acts) = log [act] ++ log acts := List.filterMap_append (l := [act])
  simp [heard, logged]

theorem heard_map {β : Type v} (hears : ι → ι → β → Bool) (f : α → β) (j : ι) (log : List (ι × α)) :
    heard hears j (log.map fun entry => (entry.1, f entry.2)) =
      (heard (fun j i a => hears j i (f a)) j log).map f := by
  simp [heard, List.filter_map, Function.comp_def]

variable [DecidableEq ι]

def Act.takenBy (j : ι) : Act ι α → Option α
  | .take i a => if i = j then some a else none
  | _ => none

/-- What one party put on the medium, in the order of the log. -/
def sent (i : ι) (log : List (ι × α)) : List α := (log.filter fun entry => entry.1 = i).map Prod.snd

theorem sent_map {β : Type v} (f : α → β) (i : ι) (log : List (ι × α)) :
    sent i (log.map fun entry => (entry.1, f entry.2)) = (sent i log).map f := by
  simp [sent, List.filter_map, Function.comp_def]

theorem mem_sent {log : List (ι × α)} {entry : ι × α} (mem : entry ∈ log) : entry.2 ∈ sent entry.1 log :=
  List.mem_map.mpr ⟨entry, List.mem_filter.mpr ⟨mem, by simp⟩, rfl⟩

def taken (j : ι) (acts : List (Act ι α)) : List α := acts.filterMap (Act.takenBy j)

theorem taken_cons (j : ι) (act : Act ι α) (acts : List (Act ι α)) :
    taken j (act :: acts) = taken j [act] ++ taken j acts :=
  List.filterMap_append (l := [act])

variable [DecidableEq α]

/-- What is put reaches the queues of all that hear it, and a receiver can only take what is first in its own. -/
def step (hears : ι → ι → α → Bool) (queues : ι → List α) : Act ι α → Option (ι → List α)
  | .put i a => some fun j => if hears j i a then queues j ++ [a] else queues j
  | .take j a => if (queues j).head? = some a then some (Function.update queues j (queues j).tail) else none
  | .lose j position => some (Function.update queues j ((queues j).eraseIdx position))

def run (hears : ι → ι → α → Bool) : List (Act ι α) → (ι → List α) → Option (ι → List α)
  | [], queues => some queues
  | act :: acts, queues => (step hears queues act).bind (run hears acts)

variable {hears : ι → ι → α → Bool}

theorem run_cons {act : Act ι α} {acts : List (Act ι α)} {queues last : ι → List α}
    (ran : run hears (act :: acts) queues = some last) :
    ∃ next, step hears queues act = some next ∧ run hears acts next = some last :=
  Option.bind_eq_some_iff.mp ran

theorem take_head {queues next : ι → List α} {i : ι} {a : α} (took : step hears queues (.take i a) = some next) :
    queues i = a :: (queues i).tail ∧ next = Function.update queues i (queues i).tail := by
  simp only [step] at took
  split at took
  next first =>
    cases queue : queues i with
    | nil => simp [queue] at first
    | cons b rest =>
      rw [queue] at first took
      cases Option.some.inj first
      exact ⟨rfl, (Option.some.inj took).symm⟩
  next => cases took

/-- One act moves what it concerns from the log to the queue or from the queue to the receiver. -/
theorem step_all (j : ι) {act : Act ι α} {queues next : ι → List α} (stepped : step hears queues act = some next)
    (kept : ∀ position, act ≠ .lose j position) :
    taken j [act] ++ next j = queues j ++ heard hears j (log [act]) := by
  cases act with
  | put i a =>
    cases Option.some.inj stepped
    by_cases hearing : hears j i a = true <;> simp [taken, Act.takenBy, heard, log, Act.entry, hearing]
  | take i a =>
    obtain ⟨head, rfl⟩ := take_head stepped
    by_cases here : i = j
    · subst here
      simp [taken, Act.takenBy, heard, log, Act.entry, ← head]
    · simp [taken, Act.takenBy, heard, log, Act.entry, here, Function.update_of_ne (Ne.symm here)]
  | lose i position =>
    cases Option.some.inj stepped
    have other : j ≠ i := fun same => kept position (congrArg (Act.lose · position) same.symm)
    simp [taken, Act.takenBy, heard, log, Act.entry, List.filterMap_cons, Function.update_of_ne other]

theorem step_sublist (j : ι) {act : Act ι α} {queues next : ι → List α} (stepped : step hears queues act = some next) :
    List.Sublist (taken j [act] ++ next j) (queues j ++ heard hears j (log [act])) := by
  by_cases lost : ∃ position, act = .lose j position
  · obtain ⟨position, rfl⟩ := lost
    cases Option.some.inj stepped
    simpa [taken, Act.takenBy, heard, log, Act.entry, List.filterMap_cons] using List.eraseIdx_sublist (queues j) position
  · rw [step_all j stepped fun position eq => lost ⟨position, eq⟩]

/-- What a receiver took and what waits for it is, in order, some of what it heard. -/
theorem taken_sublist (j : ι) {acts : List (Act ι α)} {queues last : ι → List α}
    (ran : run hears acts queues = some last) :
    List.Sublist (taken j acts ++ last j) (queues j ++ heard hears j (log acts)) := by
  induction acts generalizing queues with
  | nil =>
    cases Option.some.inj ran
    simp [taken, heard, log]
  | cons act acts ih =>
    obtain ⟨next, stepped, later⟩ := run_cons ran
    rw [taken_cons, heard_cons, List.append_assoc, ← List.append_assoc (queues j)]
    refine ((ih later).append_left _).trans ?_
    rw [← List.append_assoc]
    exact (step_sublist j stepped).append_right _

/-- Where nothing was lost that is all of it. -/
theorem taken_all (j : ι) {acts : List (Act ι α)} {queues last : ι → List α}
    (ran : run hears acts queues = some last) (lossFree : LossFree j acts) :
    taken j acts ++ last j = queues j ++ heard hears j (log acts) := by
  induction acts generalizing queues with
  | nil =>
    cases Option.some.inj ran
    simp [taken, heard, log]
  | cons act acts ih =>
    obtain ⟨next, stepped, later⟩ := run_cons ran
    have kept : ∀ position, act ≠ .lose j position := by
      rintro position rfl
      exact lossFree position List.mem_cons_self
    rw [taken_cons, heard_cons, List.append_assoc, ← List.append_assoc (queues j),
      ih later fun position mem => lossFree position (List.mem_cons_of_mem act mem), ← List.append_assoc,
      step_all j stepped kept]

end Medium
