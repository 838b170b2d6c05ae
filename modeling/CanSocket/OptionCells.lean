import CanSocket.CallRun
import CanSocket.OptionObjects
import CanSocket.OptionReplay

namespace CanSocket

open ObjectHeap

/-- What the fields of a socket say of its three option objects, by the names of these. -/
def CanIsoTpFields.contents (f : CanIsoTpFields) : Nat → Option OptionFields
  | 0 => f.isoTpOptions.map .isoTp
  | 1 => f.flowControlOptions.map .flowControl
  | 2 => f.linkLayerOptions.map .linkLayer
  | _ => none

/-- The first three objects of a store are the option objects of a socket. -/
structure Follows (f : CanIsoTpFields) (cells : Store OptionFields) : Prop where
  bounded : cells.Bounded
  points : ∀ x < 3, cells.pointers x ≠ none
  holds : ∀ x < 3, cells.held x = f.contents x

/-- The object an option is stored in, with what its copy holds, whose cell is a new one. -/
def SocketOption.object : SocketOption → Option (Nat × OptionFields)
  | .isoTpOptions ⟨fields, false⟩ => some (0, .isoTp fields)
  | .flowControlOptions ⟨fields, false⟩ => some (1, .flowControl fields)
  | .linkLayerOptions ⟨fields, false⟩ => some (2, .linkLayer fields)
  | _ => none

def SocketOption.isObject : SocketOption → Bool
  | .isoTpOptions _ => true
  | .flowControlOptions _ => true
  | .linkLayerOptions _ => true
  | _ => false

/-- The option the kernel is handed for an object of these contents. -/
def OptionFields.kernelOption : OptionFields → KernelOption
  | .isoTp o => .canIsotpOpts o
  | .flowControl o => .canIsotpRecvFc o
  | .linkLayer o => .canIsotpLlOpts o

theorem Follows.of_same {f : CanIsoTpFields} {cells cells' : Store OptionFields} (h : Follows f cells)
    (bounded : cells'.Bounded) (pointers : cells'.pointers = cells.pointers) (held : cells'.held = cells.held) :
    Follows f cells' :=
  ⟨bounded, fun x below => by rw [pointers]; exact h.points x below,
    fun x below => (congrFun held x).trans (h.holds x below)⟩

/-- An option that is granted leaves the field of its object without contents, and the others as they were. -/
theorem store_object (f : CanIsoTpFields) {option : SocketOption} {x : Nat} {fields : OptionFields}
    (object : option.object = some (x, fields)) :
    x < 3 ∧ ∃ f', (Protocol.isoTp f).store option = .isoTp f' ∧ f'.contents = Function.update f.contents x none := by
  unfold SocketOption.object at object
  split at object
  · cases object
    refine ⟨by decide, _, rfl, funext fun y => ?_⟩
    rcases y with _ | _ | _ | y <;> rfl
  · cases object
    refine ⟨by decide, _, rfl, funext fun y => ?_⟩
    rcases y with _ | _ | _ | y <;> rfl
  · cases object
    refine ⟨by decide, _, rfl, funext fun y => ?_⟩
    rcases y with _ | _ | _ | y <;> rfl
  · cases object

theorem object_announced {f : CanIsoTpFields} {option : SocketOption} {x : Nat} {fields : OptionFields}
    (object : option.object = some (x, fields)) :
    (Protocol.isoTp f).differs option = true ∧
      (Protocol.isoTp f).kernelOption option = some fields.kernelOption := by
  unfold SocketOption.object at object
  split at object
  · cases object
    exact ⟨Bool.or_true _, rfl⟩
  · cases object
    exact ⟨Bool.or_true _, rfl⟩
  · cases object
    exact ⟨Bool.or_true _, rfl⟩
  · cases object

/-- What `setSocketOption` does to the option objects, by their cells. -/
theorem setSocketOption_cells (junk : OptionFields) {cells : Store OptionFields} (bounded : cells.Bounded)
    {stored copied : Nat} (value : Nat) (points : cells.pointers stored ≠ none) (unused : cells.pointers copied = none)
    (answer : Option Errno) :
    let r := setSocketOption junk cells stored value copied answer
    r.1 = answer.isNone ∧ r.2.Bounded ∧
      r.2.pointers = (if r.1 then Function.update cells.pointers stored (some cells.fresh) else cells.pointers) ∧
      r.2.held = if r.1 then Function.update cells.held stored none else cells.held := by
  cases answer with
  | some e => exact ⟨rfl, Store.destroy_construct bounded _ unused⟩
  | none =>
    obtain ⟨p, at_stored⟩ := Option.ne_none_iff_exists'.mp points
    have apart : stored ≠ copied := by
      rintro rfl
      exact points unused
    have made : (cells.copy junk copied value).pointers copied = some cells.fresh := Heap.pointers_point_self ..
    have still : (cells.copy junk copied value).pointers stored = some p :=
      (Heap.pointers_point_of_ne apart _).trans at_stored
    have unequal : equalOptions (cells.copy junk copied value) copied stored = false := by
      have older := Nat.ne_of_gt (bounded.pointers stored p at_stored)
      simpa [equalOptions, made, still] using older
    have taken : setSocketOption junk cells stored value copied none =
        (true, ((cells.copy junk copied value).assign stored copied).destroy copied) := by
      simp [setSocketOption, unequal]
    dsimp only
    rw [taken]
    exact ⟨rfl, Store.destroy_assign_construct bounded _ unused apart⟩

/-- The fields of a socket follow the cells of its option objects: an option set in one of them is announced where the
objects say so, and leaves fields that show what the objects hold. -/
theorem setSocketOption_shown {f : CanIsoTpFields} {cells : Store OptionFields} {s : Socket}
    (isoTp : s.protocol = .isoTp f) (attached : s.descriptor ≠ -1) (shows : Follows f cells) {option : SocketOption}
    {x : Nat} {junk : OptionFields} {value copied : Nat}
    (object : option.object = some (x, cells.read junk value)) (unused : cells.pointers copied = none)
    (answer : Option Errno) :
    let r := s.setSocketOption Slot.idle option answer
    let t := setSocketOption junk cells x value copied answer
    r.1 = t.1 ∧ (∃ f', r.2.protocol = .isoTp f' ∧ Follows f' t.2) ∧
      r.2.trace.filter Event.onOptions = s.trace.filter Event.onOptions ++
        .setsockopt s.descriptor (cells.read junk value).kernelOption answer ::
          if t.1 then option.changed.toList.map Event.signal else [] := by
  obtain ⟨below, f', stores, contents⟩ := store_object f object
  obtain ⟨differs, asks⟩ := object_announced (f := f) object
  have cellular := setSocketOption_cells junk shows.bounded value (shows.points x below) unused answer
  have sets := s.setSocketOption_sets option answer
  rw [← isoTp] at stores differs asks
  have announces : s.protocol.announces option = option.changed.toList.map Event.signal := if_pos differs
  dsimp only at cellular ⊢
  generalize s.setSocketOption Slot.idle option answer = r at sets ⊢
  generalize setSocketOption junk cells x value copied answer = t at cellular ⊢
  obtain ⟨answered, bounded, pointers, held⟩ := cellular
  cases sets with
  | refused nameless => exact nomatch nameless.symm.trans asks
  | stored _ nameless _ _ => exact nomatch nameless.symm.trans asks
  | rejected kernel e u named why view =>
    obtain rfl := Option.some.inj (named.symm.trans asks)
    obtain rfl := why.resolve_left attached
    have told : t.1 = false := answered
    simp only [told, Bool.false_eq_true, if_false] at pointers held ⊢
    refine ⟨trivial, ⟨f, (congrArg OptionView.protocol view).trans isoTp, shows.of_same bounded pointers held⟩, ?_⟩
    exact congrArg OptionView.trace view
  | granted kernel u named _ accepted view =>
    obtain rfl := Option.some.inj (named.symm.trans asks)
    subst accepted
    have told : t.1 = true := answered
    simp only [told, if_true] at pointers held ⊢
    refine ⟨trivial, ⟨f', (congrArg OptionView.protocol view).trans stores, bounded, ?_, ?_⟩, ?_⟩
    · intro y small
      rw [pointers]
      rcases eq_or_ne y x with rfl | other
      · simp
      · rw [Function.update_of_ne other]
        exact shows.points y small
    · intro y small
      rw [held, contents]
      rcases eq_or_ne y x with rfl | other
      · simp
      · rw [Function.update_of_ne other, Function.update_of_ne other]
        exact shows.holds y small
    · rw [← announces]
      exact congrArg OptionView.trace view

/-- One `setSocketOption` of the user: the option, and for an option object where its value is and where its copy goes. -/
structure OptionSetting where
  option : SocketOption
  answer : Option Errno
  junk : OptionFields
  value : Nat
  copied : Nat

namespace OptionSetting

def step (c : OptionSetting) (p : Socket × Store OptionFields) : Socket × Store OptionFields :=
  ((p.1.setSocketOption Slot.idle c.option c.answer).2,
    match c.option.object with
    | some (x, _) => (setSocketOption c.junk p.2 x c.value c.copied c.answer).2
    | none => p.2)

/-- The copy holds what the value does, at a name and a cell of its own. -/
def Fits (c : OptionSetting) (p : Socket × Store OptionFields) : Prop :=
  c.option.isObject = false ∨
    (∃ x, c.option.object = some (x, p.2.read c.junk c.value)) ∧ p.2.pointers c.copied = none

end OptionSetting

/-- The options that are no objects leave the contents of those alone. -/
theorem store_plain (f : CanIsoTpFields) {option : SocketOption} (plain : option.isObject = false) :
    ∃ f', (Protocol.isoTp f).store option = .isoTp f' ∧ f'.contents = f.contents := by
  cases option with
  | isoTpOptions copy => cases plain
  | flowControlOptions copy => cases plain
  | linkLayerOptions copy => cases plain
  | _ => exact ⟨_, rfl, rfl⟩

/-- A connected ISO-TP socket beside the cells of its option objects. -/
def CellsShown (p : Socket × Store OptionFields) : Prop :=
  p.1.descriptor ≠ -1 ∧ ∃ f, p.1.protocol = .isoTp f ∧ Follows f p.2

/-- A new socket on the first descriptor it opens, beside the objects its constructor makes. -/
theorem opened_shown (junk : OptionFields) (defaultFrameTxTime : UInt32) (descriptor : Nat) :
    ∃ cells, optionStore junk [.construct 0 (.canIsoTpOptions defaultFrameTxTime),
        .construct 1 .canIsoTpFlowControlOptions, .construct 2 .canIsoTpLinkLayerOptions] = some cells ∧
      CellsShown (({ Socket.create (.isoTp (.initial defaultFrameTxTime)) with descriptor := descriptor } : Socket).log
        (.opened descriptor), cells) := by
  have each : ∀ {P : Nat → Prop}, P 0 → P 1 → P 2 → ∀ x < 3, P x := by
    intro P zero one two x below
    obtain rfl | rfl | rfl : x = 0 ∨ x = 1 ∨ x = 2 := by omega
    · exact zero
    · exact one
    · exact two
  have attached : (descriptor : Int) ≠ -1 := by omega
  refine ⟨_, rfl, attached, _, rfl, ?_, each nofun nofun nofun, each rfl rfl rfl⟩
  exact ((Store.sound_empty.construct 0 _).construct 1 _ |>.construct 2 _).bounded

theorem setting_shown (c : OptionSetting) (p : Socket × Store OptionFields) (fits : c.Fits p) (h : CellsShown p) :
    CellsShown (c.step p) := by
  obtain ⟨attached, f, isoTp, shows⟩ := h
  obtain ⟨-, still, stores⟩ := (p.1.setSocketOption_sets c.option c.answer).frame
  refine ⟨still.symm ▸ attached, ?_⟩
  rcases fits with plain | ⟨⟨x, object⟩, unused⟩
  · have none : c.option.object = none := by
      cases option : c.option <;> first | rfl | (rw [option] at plain; cases plain)
    obtain ⟨f', store, contents⟩ := store_plain f plain
    have shown : Follows f' p.2 := ⟨shows.bounded, shows.points, by rw [contents]; exact shows.holds⟩
    simp only [OptionSetting.step, none]
    rcases stores with same | stored
    · exact ⟨f, same.trans isoTp, shows⟩
    · exact ⟨f', by rw [stored, isoTp, store], shown⟩
  · have shown := (setSocketOption_shown isoTp attached shows object unused c.answer).2.1
    simpa only [OptionSetting.step, object] using shown

/-- After every run of settings that fit the fields of the socket show what its option objects hold. -/
theorem settings_shown {settings : List OptionSetting} {p : Socket × Store OptionFields}
    (fit : CallRun.Guarded OptionSetting.step OptionSetting.Fits settings p) (start : CellsShown p) :
    CellsShown (CallRun.run OptionSetting.step settings p) :=
  CallRun.run_invariant setting_shown fit start

/-- What a connect finds in the place of a released cell. -/
def ConnectEnv.junk (env : ConnectEnv) : Nat → OptionFields
  | 0 => .isoTp env.isoTpOptions.fields
  | 1 => .flowControl env.flowControlOptions.fields
  | _ => .linkLayer env.linkLayerOptions.fields

/-- The copies a connect makes have cells of their own. -/
def ConnectEnv.Fresh (env : ConnectEnv) : Prop :=
  env.isoTpOptions.reused = false ∧ env.flowControlOptions.reused = false ∧ env.linkLayerOptions.reused = false

/-- An option object a connect hands over reads the stored one, or junk where the cell of that is released. -/
theorem connectOptions_read {env : ConnectEnv} (fresh : env.Fresh) {option : Protocol → SocketOption}
    (among : option ∈ Socket.connectOptions env) {f : CanIsoTpFields} {cells : Store OptionFields}
    (shows : Follows f cells) : (option (.isoTp f)).isObject = false ∨
      ∃ x, (option (.isoTp f)).object = some (x, cells.read (env.junk x) x) := by
  obtain ⟨options, flowControl, linkLayer⟩ := fresh
  simp only [Socket.connectOptions, List.mem_cons, List.not_mem_nil, or_false] at among
  rcases among with rfl | rfl | rfl | rfl | rfl
  · refine Or.inr ⟨0, ?_⟩
    rw [Store.read, shows.holds 0 (by decide)]
    simp only [OptionsCopy.copied, options]
    cases stored : f.isoTpOptions <;> simp [SocketOption.object, CanIsoTpFields.contents, ConnectEnv.junk, stored]
  · refine Or.inr ⟨1, ?_⟩
    rw [Store.read, shows.holds 1 (by decide)]
    simp only [OptionsCopy.copied, flowControl]
    cases stored : f.flowControlOptions <;> simp [SocketOption.object, CanIsoTpFields.contents, ConnectEnv.junk, stored]
  · exact Or.inl rfl
  · exact Or.inl rfl
  · refine Or.inr ⟨2, ?_⟩
    rw [Store.read, shows.holds 2 (by decide)]
    simp only [OptionsCopy.copied, linkLayer]
    cases stored : f.linkLayerOptions <;> simp [SocketOption.object, CanIsoTpFields.contents, ConnectEnv.junk, stored]

/-- The setting of an option from the stored object itself. -/
def OptionSetting.again (junk : Nat → OptionFields) (copied : Nat) (option : SocketOption) (answer : Option Errno) :
    OptionSetting :=
  let x := (option.object.map Prod.fst).getD 0
  ⟨option, answer, junk x, x, copied⟩

/-- The settings a connect replays, up to the first that fails. -/
def Socket.replaySettings (junk : Nat → OptionFields) (copied : Nat) (answers : Nat → Option Errno) :
    List (Protocol → SocketOption) → Nat → Socket → List OptionSetting
  | [], _, _ => []
  | option :: options, i, s =>
    let r := s.setSocketOption Slot.idle (option s.protocol) (answers i)
    .again junk copied (option s.protocol) (answers i) ::
      if r.1 then r.2.replaySettings junk copied answers options (i + 1) else []

/-- The name of the copy is free again behind a setting. -/
theorem setting_unused {c : OptionSetting} {p : Socket × Store OptionFields} (h : CellsShown p)
    (unused : p.2.pointers c.copied = none) : (c.step p).2.pointers c.copied = none := by
  obtain ⟨_, f, _, shows⟩ := h
  unfold OptionSetting.step
  cases object : c.option.object with
  | none => exact unused
  | some at_x =>
    obtain ⟨x, fields⟩ := at_x
    have points := shows.points x (store_object f object).1
    have apart : c.copied ≠ x := by
      rintro rfl
      exact points unused
    obtain ⟨-, -, pointers, -⟩ := setSocketOption_cells c.junk shows.bounded c.value points unused c.answer
    dsimp only
    rw [pointers]
    split
    · rwa [Function.update_of_ne apart]
    · exact unused

theorem replaySettings_fit {junk : Nat → OptionFields} {copied : Nat} {options : List (Protocol → SocketOption)}
    (reads : ∀ option ∈ options, ∀ f cells, Follows f cells → (option (.isoTp f)).isObject = false ∨
      ∃ x, (option (.isoTp f)).object = some (x, cells.read (junk x) x))
    (answers : Nat → Option Errno) (i : Nat) {p : Socket × Store OptionFields} (h : CellsShown p)
    (unused : p.2.pointers copied = none) :
    CallRun.Guarded OptionSetting.step OptionSetting.Fits (p.1.replaySettings junk copied answers options i) p ∧
      (CallRun.run OptionSetting.step (p.1.replaySettings junk copied answers options i) p).1 =
        (p.1.replayOptions Slot.idle answers options i).2 := by
  induction options generalizing i p with
  | nil => exact ⟨trivial, rfl⟩
  | cons option options ih =>
    have fits : (OptionSetting.again junk copied (option p.1.protocol) (answers i)).Fits p := by
      obtain ⟨_, f, isoTp, shows⟩ := h
      rw [isoTp]
      refine (reads option List.mem_cons_self f p.2 shows).imp id fun ⟨x, object⟩ => ⟨⟨x, ?_⟩, unused⟩
      simp [OptionSetting.again, object]
    have after := ih (fun later mem => reads later (List.mem_cons_of_mem _ mem)) (i + 1) (setting_shown _ p fits h)
      (setting_unused h unused)
    unfold Socket.replaySettings Socket.replayOptions
    dsimp only
    cases eq : p.1.setSocketOption Slot.idle (option p.1.protocol) (answers i) with
    | mk granted t =>
      have stepped : ((OptionSetting.again junk copied (option p.1.protocol) (answers i)).step p).1 = t :=
        congrArg Prod.snd eq
      rw [stepped] at after
      cases granted with
      | false => exact ⟨⟨fits, trivial⟩, stepped⟩
      | true => exact ⟨⟨fits, after.1⟩, after.2⟩

/-- A replay of the options is a run of settings from the stored objects, so the fields show what these hold behind it
too: from the constructor on, through connects and settings. -/
theorem replay_shown {env : ConnectEnv} (fresh : env.Fresh) {copied : Nat} {p : Socket × Store OptionFields}
    (h : CellsShown p) (unused : p.2.pointers copied = none) :
    let settings := p.1.replaySettings env.junk copied env.setsockopt (Socket.connectOptions env) 0
    (CallRun.run OptionSetting.step settings p).1 =
        (p.1.replayOptions Slot.idle env.setsockopt (Socket.connectOptions env) 0).2 ∧
      CellsShown (CallRun.run OptionSetting.step settings p) := by
  obtain ⟨fit, same⟩ := replaySettings_fit (fun option among f cells => connectOptions_read fresh among)
    env.setsockopt 0 h unused
  exact ⟨same, settings_shown fit h⟩

end CanSocket
