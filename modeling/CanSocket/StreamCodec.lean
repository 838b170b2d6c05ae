import Mathlib.Data.List.Basic

namespace StreamCodec

universe u

variable {α β : Type u}

/-- `dec` reads one value off the front of a stream into a target that already
holds a value; it is self-delimiting at `a` when it takes exactly the symbols
`enc` wrote for `a`, whatever follows and whatever the target held. -/
def Delimits (enc : α → List β) (dec : α → List β → Option (α × List β)) (a : α) : Prop :=
  ∀ target rest, dec target (enc a ++ rest) = some (a, rest)

def decodeEach (dec : α → List β → Option (α × List β)) :
    List α → List β → Option (List α × List β)
  | [], bytes => some ([], bytes)
  | target :: targets, bytes => do
    let (a, rest) ← dec target bytes
    let (as, rest) ← decodeEach dec targets rest
    pure (a :: as, rest)

theorem decodeEach_flatMap {enc : α → List β} {dec : α → List β → Option (α × List β)}
    {as : List α} (delimits : ∀ a ∈ as, Delimits enc dec a) (targets : List α)
    (len : targets.length = as.length) (rest : List β) :
    decodeEach dec targets (as.flatMap enc ++ rest) = some (as, rest) := by
  induction as generalizing targets with
  | nil =>
    have empty : targets = [] := List.length_eq_zero_iff.mp len
    simp [empty, decodeEach]
  | cons a as ih =>
    cases targets with
    | nil => simp at len
    | cons target targets =>
      have first := delimits a (by simp) target (as.flatMap enc ++ rest)
      have others := ih (fun x hx => delimits x (by simp [hx])) targets (by simpa using len)
      simp [decodeEach, first, others]

/-- Reads into one reused target until the stream is empty. -/
def decodeAll (dec : α → List β → Option (α × List β)) : Nat → α → List β → Option (List α)
  | _, _, [] => some []
  | 0, _, _ :: _ => none
  | fuel + 1, target, b :: bytes => do
    let (a, rest) ← dec target (b :: bytes)
    let as ← decodeAll dec fuel a rest
    pure (a :: as)

theorem decodeAll_flatMap {enc : α → List β} {dec : α → List β → Option (α × List β)}
    {as : List α} (delimits : ∀ a ∈ as, Delimits enc dec a) (nonempty : ∀ a ∈ as, enc a ≠ [])
    (target : α) {fuel : Nat} (enough : as.length ≤ fuel) :
    decodeAll dec fuel target (as.flatMap enc) = some as := by
  induction as generalizing target fuel with
  | nil => cases fuel <;> rfl
  | cons a as ih =>
    obtain ⟨b, bs, hb⟩ := List.exists_cons_of_ne_nil (nonempty a (by simp))
    cases fuel with
    | zero => simp at enough
    | succ fuel =>
      have first := delimits a (by simp) target (as.flatMap enc)
      have others := ih (fun x hx => delimits x (by simp [hx]))
        (fun x hx => nonempty x (by simp [hx])) a (by simpa using enough)
      rw [hb, List.cons_append] at first
      simp [hb, decodeAll, first, others]

theorem flatMap_filter {enc : α → List β} {p : α → Bool} (silent : ∀ a, p a = false → enc a = [])
    (as : List α) : (as.filter p).flatMap enc = as.flatMap enc := by
  induction as with
  | nil => rfl
  | cons a as ih =>
    cases h : p a with
    | false => simp [h, silent a h, ih]
    | true => simp [h, ih]

theorem length_le_flatMap {enc : α → List β} {as : List α} (nonempty : ∀ a ∈ as, enc a ≠ []) :
    as.length ≤ (as.flatMap enc).length := by
  induction as with
  | nil => simp
  | cons a as ih =>
    have head : 0 < (enc a).length := List.length_pos_iff.mpr (nonempty a (by simp))
    have tail := ih (fun x hx => nonempty x (by simp [hx]))
    simp only [List.flatMap_cons, List.length_append, List.length_cons]
    omega

/-- `dec` takes exactly the codes of good values, each off the front of a stream; where the stream ends with a code,
the end of that code may be missing as far as it can be spared. -/
structure Accepts (enc : α → List β) (dec : α → List β → Option (α × List β)) (Good : α → Prop)
    (Spare : α → List β → Prop) : Prop where
  whole : ∀ a, Spare a []
  short : ∀ {a missing}, Spare a missing → missing.length < (enc a).length
  takes : ∀ {a} target {bytes rest missing}, Good a → Spare a missing → enc a ++ rest = bytes ++ missing →
    missing = [] ∨ rest = [] → dec target bytes = some (a, rest)
  only : ∀ {target bytes a rest}, dec target bytes = some (a, rest) → Good a ∧ ∃ missing, Spare a missing ∧
    enc a ++ rest = bytes ++ missing ∧ (missing = [] ∨ rest = [])

section

variable {enc : α → List β} {dec : α → List β → Option (α × List β)} {Good : α → Prop} {Spare : α → List β → Prop}

/-- The end of a stream of codes that may be missing: one the last value can spare. -/
def Spares (Spare : α → List β → Prop) (as : List α) (missing : List β) : Prop :=
  missing = [] ∨ ∃ a, as.getLast? = some a ∧ Spare a missing

theorem decodeAll_nil {fuel : Nat} {target : α} : decodeAll dec fuel target [] = some [] := by
  cases fuel <;> rfl

theorem Accepts.spares_short (accepts : Accepts enc dec Good Spare) {as : List α} {missing : List β}
    (spares : Spares Spare as missing) (some : as ≠ []) : missing.length < (as.flatMap enc).length := by
  have last := List.dropLast_append_getLast some
  have there : ∀ {m : List β}, Spare (as.getLast some) m → m.length < (as.flatMap enc).length := by
    intro m spare
    rw [← last, List.flatMap_append, List.length_append]
    have := accepts.short spare
    simp only [List.flatMap_cons, List.flatMap_nil, List.append_nil]
    omega
  rcases spares with rfl | ⟨a, at_last, spare⟩
  · exact there (accepts.whole _)
  · rw [List.getLast?_eq_some_getLast some] at at_last
    exact there (Option.some.inj at_last ▸ spare)

theorem Accepts.of_decodeAll (accepts : Accepts enc dec Good Spare) {fuel : Nat} {target : α} {bytes : List β}
    {as : List α} (decoded : decodeAll dec fuel target bytes = some as) :
    (∀ a ∈ as, Good a) ∧ ∃ missing, as.flatMap enc = bytes ++ missing ∧ Spares Spare as missing := by
  induction fuel generalizing target bytes as with
  | zero =>
    cases bytes with
    | nil =>
      cases decoded
      exact ⟨by simp, [], rfl, Or.inl rfl⟩
    | cons b bytes => cases decoded
  | succ fuel ih =>
    cases bytes with
    | nil =>
      cases decoded
      exact ⟨by simp, [], rfl, Or.inl rfl⟩
    | cons b bytes =>
      obtain ⟨⟨a, rest⟩, first, more⟩ := Option.bind_eq_some_iff.mp decoded
      obtain ⟨others, tail, same⟩ := Option.bind_eq_some_iff.mp more
      obtain rfl : a :: others = as := Option.some.inj same
      obtain ⟨good, missing, spare, code, ends⟩ := accepts.only first
      obtain ⟨goods, missing', codes, spares⟩ := ih tail
      refine ⟨by simpa using ⟨good, goods⟩, ?_⟩
      rcases ends with rfl | rfl
      · refine ⟨missing', ?_, ?_⟩
        · rw [List.flatMap_cons, codes, ← List.append_assoc, code, List.append_nil]
        · rcases spares with none | ⟨last, at_last, spare⟩
          · exact Or.inl none
          · exact Or.inr ⟨last, by rw [List.getLast?_cons, at_last]; rfl, spare⟩
      · have stopped : others = [] := by
          rw [decodeAll_nil] at tail
          exact (Option.some.inj tail).symm
        subst stopped
        exact ⟨missing, by simpa using code, Or.inr ⟨a, rfl, spare⟩⟩

theorem Accepts.decodeAll_codes (accepts : Accepts enc dec Good Spare) {as : List α} (goods : ∀ a ∈ as, Good a)
    {missing : List β} (spares : Spares Spare as missing) {fuel : Nat} {bytes : List β} (enough : bytes.length ≤ fuel)
    (codes : as.flatMap enc = bytes ++ missing) (target : α) : decodeAll dec fuel target bytes = some as := by
  induction as generalizing fuel bytes target with
  | nil =>
    have empty : bytes = [] := (List.append_eq_nil_iff.mp codes.symm).1
    rw [empty, decodeAll_nil]
  | cons a as ih =>
    rw [List.flatMap_cons] at codes
    obtain ⟨rest, first, tail⟩ : ∃ rest, dec target bytes = some (a, rest) ∧
        decodeAll dec (fuel - 1) a rest = some as := by
      by_cases stopped : as = []
      · subst stopped
        have spare : Spare a missing := by
          rcases spares with rfl | ⟨last, at_last, spare⟩
          · exact accepts.whole a
          · obtain rfl : a = last := Option.some.inj at_last
            exact spare
        exact ⟨[], accepts.takes target (goods a (by simp)) spare codes (Or.inr rfl), decodeAll_nil⟩
      · have later : Spares Spare as missing := by
          rcases spares with none | ⟨last, at_last, spare⟩
          · exact Or.inl none
          · rw [List.getLast?_cons_of_ne_nil stopped] at at_last
            exact Or.inr ⟨last, at_last, spare⟩
        have short := accepts.spares_short later stopped
        rcases List.append_eq_append_iff.mp codes with ⟨rest, rfl, eq⟩ | ⟨cut, _, eq⟩
        · have nonempty := accepts.short (accepts.whole a)
          simp only [List.length_append, List.length_nil] at enough nonempty
          have left : rest.length ≤ fuel - 1 := by omega
          refine ⟨rest, ?_, ih (fun b mem => goods b (by simp [mem])) later left eq a⟩
          exact accepts.takes target (goods a (by simp)) (accepts.whole a) (by simp) (Or.inl rfl)
        · rw [eq, List.length_append] at short
          omega
    have nonempty : bytes ≠ [] := by
      rintro rfl
      obtain ⟨_, missing, spare, eq, _⟩ := accepts.only first
      have short := accepts.short spare
      have size := congrArg List.length eq
      simp only [List.length_append, List.nil_append] at size
      omega
    obtain ⟨b, front, rfl⟩ := List.exists_cons_of_ne_nil nonempty
    cases fuel with
    | zero => simp at enough
    | succ fuel =>
      rw [Nat.add_sub_cancel] at tail
      simp [decodeAll, first, tail]

end

end StreamCodec
