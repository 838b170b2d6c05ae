import CanSocket.FrameObjects
import CanSocket.SharedValues

namespace CanSocket

open ObjectHeap

/-- The step on frames that share nothing: a copy is a frame of its own. -/
def FrameStep.onValues (values : Values CanFrameData) : FrameStep → Option (Values CanFrameData)
  | .construct x => some (values.put x {})
  | .assign x y => some (values.assign x y)
  | .swap x y => some (values.swap x y)
  | .destroy x => some (values.destroy x)
  | .change x op =>
    match values x with
    | some d => (op.exec d).map (values.put x)
    | none => some values

def frameValues (program : List FrameStep) : Option (Values CanFrameData) :=
  program.foldlM (fun values step => step.onValues values) Values.empty

theorem FrameStep.shows {h : Heap (Nat × CanFrameData)} {values : Values CanFrameData} (shows : Shows h values)
    (step : FrameStep) : Option.Rel Shows (step.exec h) (step.onValues values) := by
  cases step with
  | construct x => exact .some (shows.construct x {})
  | assign x y => exact .some (shows.assign x y)
  | swap x y => exact .some (shows.swap x y)
  | destroy x => exact .some (shows.destroy x)
  | change x op =>
    have value := shows.value x
    rw [FrameStep.exec, FrameStep.onValues]
    cases at_x : values x with
    | none =>
      rw [value, at_x]
      exact .some shows
    | some d =>
      rw [value, at_x]
      change Option.Rel Shows ((op.exec d).map _) ((op.exec d).map _)
      cases touch : op.detaches d with
      | false =>
        -- the payload is not copied, and stays what it was
        have same : values.put x d = values := by
          rw [Values.put, ← at_x, Function.update_eq_self]
        rw [FrameOp.exec_of_not_detaches touch, Option.map_some, Option.map_some, same]
        exact .some shows
      | true =>
        cases op.exec d with
        | none => exact .none
        | some e => exact .some (shows.modify at_x e)

theorem frameHeap_shows (program : List FrameStep) : Option.Rel Shows (frameHeap program) (frameValues program) := by
  induction program using List.reverseRecOn with
  | nil => exact .some Shows.empty
  | append_singleton program last ih =>
    have values : frameValues (program ++ [last]) = (frameValues program).bind last.onValues := by
      simp [frameValues, List.foldlM_append]
    rw [frameHeap_concat, values]
    generalize frameHeap program = heap at ih
    generalize frameValues program = plain at ih
    cases ih with
    | none => exact .none
    | some shows => exact last.shows shows

/-- A program cannot tell that its frames share payloads: it stops where the program on unshared frames stops, and
otherwise every frame holds what it holds there. Payloads are counted exactly and live as long as a frame needs them. -/
theorem frame_sharing_unseen (program : List FrameStep) :
    frameHeap program = none ∧ frameValues program = none ∨
      ∃ h values, frameHeap program = some h ∧ frameValues program = some values ∧
        (∀ x, h.value x = values x) ∧ (∀ p, (h.owners p).encard = h.count p) ∧
        ∀ p, h.cells p ≠ none ↔ ∃ x, h.pointers x = some p := by
  have related := frameHeap_shows program
  generalize frameHeap program = heap at related
  generalize frameValues program = plain at related
  cases related with
  | none => exact Or.inl ⟨rfl, rfl⟩
  | @some h values shows =>
    exact Or.inr ⟨h, values, rfl, rfl, shows.value, shows.counted.exact, Heap.live_iff_owned shows.counted shows.unleaked⟩

end CanSocket
