import CanSocket.History
import CanSocket.OwnedCells
import CanSocket.SocketTypes

namespace CanSocket

open ObjectHeap History

/-- What a cell of one of the three option classes holds. -/
inductive OptionFields
  | isoTp (o : CanIsoTpOptions)
  | flowControl (o : CanIsoTpFlowControlOptions)
  | linkLayer (o : CanIsoTpLinkLayerOptions)
deriving DecidableEq, Repr

/-- The class of an object; `CAN_ISOTP_DEFAULT_FRAME_TXTIME`, which the constructor of the first takes, is one of the
kernel's header. -/
inductive OptionClass
  | canIsoTpOptions (defaultFrameTxTime : UInt32)
  | canIsoTpFlowControlOptions
  | canIsoTpLinkLayerOptions
deriving DecidableEq, Repr

def OptionClass.defaults : OptionClass → OptionFields
  | .canIsoTpOptions defaultFrameTxTime => .isoTp { frameTxTime := defaultFrameTxTime }
  | .canIsoTpFlowControlOptions => .flowControl {}
  | .canIsoTpLinkLayerOptions => .linkLayer {}

inductive OptionSetter
  | setIsoTpFlags (flags : UInt32)
  | setFrameTxTime (nsecs : UInt32)
  | setExtendedAddress (address : UInt8)
  | setTxPaddingByte (content : UInt8)
  | setRxPaddingByte (content : UInt8)
  | setBlockSize (size : UInt8)
  | setMinSeparationTime (sepTimeCode : UInt8)
  | setWaitFramesMaxNumber (waitFramesMaxNumber : UInt8)
  | setMaxDataTransferUnit (mtu : UInt8)
  | setTxDataLength (dlen : UInt8)
  | setTxFdFrameFlags (flags : UInt8)
deriving DecidableEq, Repr

/-- A setter of another class cannot be called on the object. -/
def OptionSetter.apply : OptionSetter → OptionFields → OptionFields
  | .setIsoTpFlags flags, .isoTp o => .isoTp { o with flags := flags }
  | .setFrameTxTime nsecs, .isoTp o => .isoTp { o with frameTxTime := nsecs }
  | .setExtendedAddress address, .isoTp o => .isoTp { o with extAddress := address }
  | .setTxPaddingByte content, .isoTp o => .isoTp { o with txPadContent := content }
  | .setRxPaddingByte content, .isoTp o => .isoTp { o with rxPadContent := content }
  | .setBlockSize size, .flowControl o => .flowControl { o with blockSize := size }
  | .setMinSeparationTime sepTimeCode, .flowControl o => .flowControl { o with stMin := sepTimeCode }
  | .setWaitFramesMaxNumber number, .flowControl o => .flowControl { o with wftMax := number }
  | .setMaxDataTransferUnit mtu, .linkLayer o => .linkLayer { o with mtu := mtu }
  | .setTxDataLength dlen, .linkLayer o => .linkLayer { o with txDlen := dlen }
  | .setTxFdFrameFlags flags, .linkLayer o => .linkLayer { o with txFdFlags := flags }
  | _, fields => fields

/-- `operator ==` of the three classes: the pointers are compared. -/
def equalOptions (s : Store OptionFields) (x y : Nat) : Bool := s.pointers x == s.pointers y

/-- The case of a class in `CanIsoTpSocketPrivate::setSocketOption`, where `answer` is that of
`::setsockopt`: a copy of the value lives to the end of the case, whether or not the stored object
is assigned from it. Says whether the change was announced. -/
def setSocketOption (junk : OptionFields) (s : Store OptionFields) (stored value copied : Nat)
    (answer : Option Errno) : Bool × Store OptionFields :=
  let s := s.copy junk copied value
  match answer with
  | some _ => (false, s.destroy copied)
  | none =>
    if !equalOptions s copied stored then (true, (s.assign stored copied).destroy copied)
    else (false, s.destroy copied)

/-- One step of a program with option objects. What the receivers of a changed signal do is a
program with these steps too: the copy, the comparison, the assignment, theirs, the destruction. -/
inductive OptionStep
  | construct (x : Nat) (type : OptionClass)
  | copy (x y : Nat)
  | assign (x y : Nat)
  | set (x : Nat) (setter : OptionSetter)
  | compare (x y : Nat)
  | destroy (x : Nat)
  | setSocketOption (stored value copied : Nat) (answer : Option Errno)

namespace OptionStep

/-- A step names objects that exist, and makes objects under new names. -/
def inScope (s : Store OptionFields) : OptionStep → Bool
  | .construct x _ => (s.pointers x).isNone
  | .copy x y => (s.pointers x).isNone && (s.pointers y).isSome
  | .assign x y => (s.pointers x).isSome && (s.pointers y).isSome
  | .set x _ => (s.pointers x).isSome
  | .compare x y => (s.pointers x).isSome && (s.pointers y).isSome
  | .destroy x => (s.pointers x).isSome
  | .setSocketOption stored value copied _ =>
    (s.pointers stored).isSome && (s.pointers value).isSome && (s.pointers copied).isNone

def after (junk : OptionFields) (s : Store OptionFields) : OptionStep → Store OptionFields
  | .construct x type => s.construct x type.defaults
  | .copy x y => s.copy junk x y
  | .assign x y => s.assign x y
  | .set x setter => s.set x setter.apply
  | .compare _ _ => s
  | .destroy x => s.destroy x
  | .setSocketOption stored value copied answer => (CanSocket.setSocketOption junk s stored value copied answer).2

def exec (junk : OptionFields) (s : Store OptionFields) (step : OptionStep) : Option (Store OptionFields) :=
  if step.inScope s then some (step.after junk s) else none

/-- What a step on values would do and say. -/
def Lawful (junk : OptionFields) (s : Store OptionFields) : OptionStep → Prop
  | .set x setter => ∀ y, y ≠ x → (s.set x setter.apply).held y = s.held y
  | .compare x y => equalOptions s x y = true ↔ s.held x = s.held y
  | .setSocketOption stored value copied answer =>
    (CanSocket.setSocketOption junk s stored value copied answer).1 = true ↔
      answer = none ∧ s.held value ≠ s.held stored
  | _ => True

/-- No object is assigned from another, and none is compared with another of equal fields. -/
def Harmless (s : Store OptionFields) : OptionStep → Prop
  | .assign x y => x = y
  | .compare x y => x = y ∨ s.held x ≠ s.held y
  | .setSocketOption _ _ _ answer => answer ≠ none
  | _ => True

variable {junk : OptionFields} {s : Store OptionFields}

theorem sound_after (h : s.Sound) {step : OptionStep} (harmless : step.Harmless s) : (step.after junk s).Sound := by
  cases step with
  | construct x type => exact h.construct x _
  | copy x y => exact h.construct x _
  | assign x y =>
    obtain rfl : x = y := harmless
    rw [after, Store.assign_self]
    exact h
  | set x setter => exact h.set x setter.apply
  | compare x y => exact h
  | destroy x => exact h.destroy x
  | setSocketOption stored value copied answer =>
    cases answer with
    | none => exact absurd rfl harmless
    | some e => exact (h.construct copied _).destroy copied

/-- The copy is at a cell of its own, so it never compares equal. -/
theorem copied_apart (h : s.Sound) (junk : OptionFields) {stored copied p : Nat} (value : Nat)
    (at_stored : s.pointers stored = some p) (unused : s.pointers copied = none) :
    stored ≠ copied ∧ equalOptions (s.copy junk copied value) copied stored = false := by
  have apart : stored ≠ copied := by
    rintro rfl
    rw [at_stored] at unused
    cases unused
  have at_copied : (s.copy junk copied value).pointers copied = some s.fresh := Heap.pointers_point_self ..
  have still : (s.copy junk copied value).pointers stored = some p :=
    (Heap.pointers_point_of_ne apart _).trans at_stored
  have older := Nat.ne_of_lt (h.bounded.pointers stored p at_stored)
  refine ⟨apart, ?_⟩
  rw [equalOptions, at_copied, still, beq_eq_false_iff_ne]
  exact fun same => older (Option.some.inj same).symm

/-- An accepted option leaves the stored object at the cell of the copy, that is gone. -/
theorem accepted_dangles (h : s.Sound) {stored value copied : Nat}
    (scope : (OptionStep.setSocketOption stored value copied none).inScope s = true) :
    ¬(CanSocket.setSocketOption junk s stored value copied none).2.Owned := by
  simp only [inScope, Bool.and_eq_true, Option.isSome_iff_exists, Option.isNone_iff_eq_none] at scope
  obtain ⟨⟨⟨p, at_stored⟩, _⟩, unused⟩ := scope
  obtain ⟨apart, unequal⟩ := copied_apart h junk value at_stored unused
  have taken : (CanSocket.setSocketOption junk s stored value copied none).2 =
      ((s.copy junk copied value).assign stored copied).destroy copied := by
    simp [CanSocket.setSocketOption, unequal]
  have at_copied : ((s.copy junk copied value).assign stored copied).pointers copied = some s.fresh := by
    rw [Store.assign, Heap.pointers_point_of_ne apart.symm]
    exact Heap.pointers_point_self ..
  intro owned
  rw [taken, Store.destroy, at_copied] at owned
  refine owned.live stored s.fresh ?_ (Heap.cells_setCell_self ..)
  rw [Heap.pointers_point_of_ne apart, Heap.pointers_setCell, Store.assign, Heap.pointers_point_self]
  exact Heap.pointers_point_self ..

theorem lawful_of_harmless (h : s.Owned) {step : OptionStep} (scope : step.inScope s = true)
    (harmless : step.Harmless s) : step.Lawful junk s := by
  cases step with
  | set x setter => exact fun y other => h.held_set_of_ne setter.apply other
  | compare x y =>
    simp only [inScope, Bool.and_eq_true, Option.isSome_iff_exists] at scope
    obtain ⟨⟨p, at_x⟩, _⟩ := scope
    simp only [Lawful, equalOptions, beq_iff_eq, h.pointers_eq_iff at_x]
    rcases harmless with same | differ
    · simp [same]
    · exact iff_of_false (fun same => differ (by rw [same])) differ
  | setSocketOption stored value copied answer =>
    cases answer with
    | none => exact absurd rfl harmless
    | some e => simp [Lawful, CanSocket.setSocketOption]
  | _ => trivial

theorem harmless_of_lawful (h : s.Sound) {step : OptionStep} (scope : step.inScope s = true)
    (lawful : step.Lawful junk s) (owned : (step.after junk s).Owned) : step.Harmless s := by
  cases step with
  | assign x y =>
    simp only [inScope, Bool.and_eq_true, Option.isSome_iff_exists] at scope
    obtain ⟨_, q, at_y⟩ := scope
    by_contra apart
    exact Store.not_owned_assign at_y apart owned
  | compare x y =>
    simp only [inScope, Bool.and_eq_true, Option.isSome_iff_exists] at scope
    obtain ⟨⟨p, at_x⟩, _⟩ := scope
    simp only [Lawful, equalOptions, beq_iff_eq, h.pointers_eq_iff at_x] at lawful
    by_cases same : x = y
    · exact Or.inl same
    · exact Or.inr fun equal => same (lawful.mpr equal)
  | setSocketOption stored value copied answer =>
    rintro rfl
    exact accepted_dangles h scope owned
  | _ => trivial

end OptionStep

/-- The store after a program, `none` when a step names what is not there. -/
def optionStore (junk : OptionFields) (program : List OptionStep) : Option (Store OptionFields) :=
  program.foldlM (fun s step => step.exec junk s) Store.empty

/-- After every part of the program each object owns its cell and nothing was released twice, and
every step does and says what it would on values. -/
structure ValueSemantics (junk : OptionFields) (program : List OptionStep) : Prop where
  owned : ∀ done, done <+: program → ∀ s, optionStore junk done = some s → s.Owned
  lawful : EachAfter (fun before step => ∀ s, optionStore junk before = some s → step.Lawful junk s) program

variable {junk : OptionFields}

theorem optionStore_concat (program : List OptionStep) (last : OptionStep) :
    optionStore junk (program ++ [last]) = (optionStore junk program).bind fun s => last.exec junk s := by
  simp [optionStore, List.foldlM_append]

theorem optionStore_concat_some {program : List OptionStep} {last : OptionStep} {t : Store OptionFields}
    (ran : optionStore junk (program ++ [last]) = some t) :
    ∃ s, optionStore junk program = some s ∧ last.inScope s = true ∧ last.after junk s = t := by
  rw [optionStore_concat] at ran
  obtain ⟨s, before, step⟩ := Option.bind_eq_some_iff.mp ran
  rw [OptionStep.exec] at step
  split at step
  · next scope => exact ⟨s, before, scope, Option.some.inj step⟩
  · cases step

theorem sound_of_harmless {program : List OptionStep} {s : Store OptionFields}
    (ran : optionStore junk program = some s)
    (harmless : EachAfter (fun before step => ∀ t, optionStore junk before = some t → step.Harmless t) program) :
    s.Sound := by
  induction program using List.reverseRecOn generalizing s with
  | nil =>
    cases ran
    exact Store.sound_empty
  | append_singleton program last ih =>
    obtain ⟨t, before, _, rfl⟩ := optionStore_concat_some ran
    rw [eachAfter_concat] at harmless
    exact OptionStep.sound_after (ih before harmless.1) (harmless.2 t before)

theorem ValueSemantics.left {program : List OptionStep} {last : OptionStep}
    (h : ValueSemantics junk (program ++ [last])) : ValueSemantics junk program :=
  ⟨fun done sub => h.owned done (sub.trans (List.prefix_append program [last])), h.lawful.left⟩

/-- Value semantics holds of exactly the programs whose steps are harmless, each in the store it is
made in. -/
theorem value_semantics_iff {program : List OptionStep} {s : Store OptionFields}
    (ran : optionStore junk program = some s) :
    ValueSemantics junk program ↔
      EachAfter (fun before step => ∀ t, optionStore junk before = some t → step.Harmless t) program := by
  induction program using List.reverseRecOn generalizing s with
  | nil =>
    refine iff_of_true ⟨fun done sub t at_done => ?_, eachAfter_nil⟩ eachAfter_nil
    rw [List.prefix_nil.mp sub] at at_done
    exact (sound_of_harmless at_done eachAfter_nil).toOwned
  | append_singleton program last ih =>
    obtain ⟨t, before, scope, rfl⟩ := optionStore_concat_some ran
    rw [eachAfter_concat]
    constructor
    · intro h
      have earlier := (ih before).mp h.left
      refine ⟨earlier, fun u at_u => ?_⟩
      cases before.symm.trans at_u
      have lawful := ((eachAfter_concat program last).mp h.lawful).2 t before
      exact OptionStep.harmless_of_lawful (sound_of_harmless before earlier) scope lawful
        (h.owned _ (List.prefix_refl _) _ ran)
    · rintro ⟨earlier, now⟩
      have kept := (ih before).mpr earlier
      have sound := sound_of_harmless before earlier
      constructor
      · intro done sub u at_u
        rcases List.prefix_concat_iff.mp sub with rfl | inner
        · cases ran.symm.trans at_u
          exact (OptionStep.sound_after sound (now t before)).toOwned
        · exact kept.owned done inner u at_u
      · refine (eachAfter_concat program last).mpr ⟨kept.lawful, fun u at_u => ?_⟩
        cases before.symm.trans at_u
        exact OptionStep.lawful_of_harmless sound.toOwned scope (now t before)

def optionsProgram : List OptionStep :=
  [.construct 0 (.canIsoTpOptions 50000), .copy 1 0, .set 1 (.setFrameTxTime 5), .compare 0 1,
    .setSocketOption 0 1 2 (some .EINVAL), .destroy 1, .destroy 0]

theorem value_semantics_iff_refused :
    ValueSemantics (.isoTp { frameTxTime := 0 }) optionsProgram ↔
      EachAfter (fun before step => ∀ t, optionStore (.isoTp { frameTxTime := 0 }) before = some t → step.Harmless t)
        optionsProgram :=
  value_semantics_iff (rfl : optionStore (.isoTp { frameTxTime := 0 }) optionsProgram = some _)

/-- An accepted option is announced although no field changed, and its cell is released a second
time with the stored object; a copy does not compare equal. -/
theorem value_semantics_fails :
    (∃ s t, optionStore (.isoTp { frameTxTime := 0 }) [.construct 0 (.canIsoTpOptions 50000), .copy 1 0] = some s ∧
      s.held 0 = s.held 1 ∧ equalOptions s 0 1 = false ∧
      (setSocketOption (.isoTp { frameTxTime := 0 }) s 0 1 2 none).1 = true ∧
      optionStore (.isoTp { frameTxTime := 0 }) [.construct 0 (.canIsoTpOptions 50000), .copy 1 0, .setSocketOption 0 1 2 none,
        .destroy 0] = some t ∧ t.released = [2, 2]) ∧
    ¬ValueSemantics (.isoTp { frameTxTime := 0 }) [.construct 0 (.canIsoTpOptions 50000), .copy 1 0, .setSocketOption 0 1 2 none,
      .destroy 0] := by
  refine ⟨⟨_, _, rfl, rfl, rfl, rfl, rfl, rfl⟩, fun h => ?_⟩
  have once := (h.owned _ (List.prefix_refl _) _ rfl).once
  have twice : ¬[2, 2].Nodup := by decide
  exact twice once

end CanSocket
