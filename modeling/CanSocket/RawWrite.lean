import CanSocket.Kernel

namespace CanSocket

/-- How many bytes `writeToSocket` offers for a frame with these reserved bytes. -/
def bytesToWrite (fd : FlexibleDataRateFrames) (res0 res1 : UInt8) : Option Nat :=
  if res0 = res0FromCanMtu canMtu ∧ res1 = res1FromCanMtu canMtu then some canMtu
  else if res0 = res0FromCanMtu canfdMtu ∧ res1 = res1FromCanMtu canfdMtu ∧ fd = .enabledFdFrames then
    some canfdMtu
  else none

def sizeAt (fd : FlexibleDataRateFrames) (data : List UInt8) (offset : Nat) : Option Nat :=
  bytesToWrite fd (data.getD (offset + 6) 0) (data.getD (offset + 7) 0)

/-- The loop of `CanRawSocketPrivate::writeToSocket` over a block of `maxSize` bytes. A
non-blocking socket with no further answer would block. -/
def writeLoop (fd : FlexibleDataRateFrames) (data : List UInt8) : List WriteAnswer → Nat → WriteResult
  | [], writtenBytes =>
    let looked := [writtenBytes + 6, writtenBytes + 7]
    if (data.length : Int) - writtenBytes < frameSize fd then ⟨writtenBytes, [], looked, none⟩
    else
      match sizeAt fd data writtenBytes with
      | none => ⟨-1, [], looked, none⟩
      | some size =>
        ⟨-1, [⟨writtenBytes, (data.drop writtenBytes).take size, .fail .EAGAIN⟩], looked, some .EAGAIN⟩
  | answer :: answers, writtenBytes =>
    let looked := [writtenBytes + 6, writtenBytes + 7]
    if (data.length : Int) - writtenBytes < frameSize fd then ⟨writtenBytes, [], looked, none⟩
    else
      match sizeAt fd data writtenBytes with
      | none => ⟨-1, [], looked, none⟩
      | some size =>
        let bytes := (data.drop writtenBytes).take size
        let call : WriteCall := ⟨writtenBytes, bytes, answer⟩
        match answer with
        | .fail e =>
          if e = .ENOBUFS then ⟨writtenBytes, [call], looked, some e⟩
          else ⟨-1, [call], looked, some e⟩
        | answer =>
          let ret := (answer.taken bytes).length
          if ret = 0 then ⟨writtenBytes, [call], looked, none⟩
          else if ret ≠ frameSize fd then ⟨-1, [call], looked, none⟩
          else
            let r := writeLoop fd data answers (writtenBytes + ret)
            { r with calls := call :: r.calls, looked := looked ++ r.looked }

def rawWriteToSocket (fd : FlexibleDataRateFrames) (data : List UInt8)
    (answers : List WriteAnswer) : WriteResult :=
  writeLoop fd data answers 0

theorem bytesToWrite_le {fd : FlexibleDataRateFrames} {res0 res1 : UInt8} {size : Nat}
    (h : bytesToWrite fd res0 res1 = some size) : 0 < size ∧ size ≤ frameSize fd := by
  unfold bytesToWrite at h
  split at h
  next =>
    cases Option.some.inj h
    exact ⟨by decide, canMtu_le_frameSize fd⟩
  next =>
    split at h
    next hf =>
      cases Option.some.inj h
      exact ⟨by decide, by simp [frameSize, hf.2.2]⟩
    next => simp at h

/-- The bytes `writeToSocket` hands to `::write` in the pass that starts at this offset. -/
def offeredAt (fd : FlexibleDataRateFrames) (data : List UInt8) (offset : Nat) : List UInt8 :=
  (data.drop offset).take ((sizeAt fd data offset).getD 0)

def answerAt (answers : List WriteAnswer) (k : Nat) : WriteAnswer := answers.getD k (.fail .EAGAIN)

/-- In pass `k` the kernel takes as many bytes as the loop counts for a frame. -/
def GoesOn (fd : FlexibleDataRateFrames) (data : List UInt8) (answers : List WriteAnswer) (k : Nat) : Prop :=
  ((answerAt answers k).taken (offeredAt fd data (k * frameSize fd))).length = frameSize fd

/-- In this batch no byte is taken before a failure: once the first frames went out whole, the
next one present in the block has tags the mode allows and is not refused with an errno other
than `ENOBUFS`, and no frame is taken whose length is not the one the loop counts. -/
def WriteBatchClean (fd : FlexibleDataRateFrames) (data : List UInt8) (answers : List WriteAnswer) : Prop :=
  ∀ k, (k + 1) * frameSize fd ≤ data.length → (∀ j < k, GoesOn fd data answers j) →
    (k = 0 ∨ sizeAt fd data (k * frameSize fd) ≠ none ∧
      ∀ e, answerAt answers k = .fail e → e = .ENOBUFS) ∧
    ((answerAt answers k).taken (offeredAt fd data (k * frameSize fd)) = [] ∨ GoesOn fd data answers k)

/-- One pass of the loop, with every way it can end. -/
inductive WritePass (fd : FlexibleDataRateFrames) (data : List UInt8) (answers : List WriteAnswer)
    (writtenBytes : Nat) (r : WriteResult) : Prop
  | short : (data.length : Int) - writtenBytes < frameSize fd → r.ret = writtenBytes → r.calls = [] →
      WritePass fd data answers writtenBytes r
  | malformed : ¬(data.length : Int) - writtenBytes < frameSize fd → sizeAt fd data writtenBytes = none →
      r.ret = -1 → r.calls = [] → WritePass fd data answers writtenBytes r
  | refused (e : Errno) : ¬(data.length : Int) - writtenBytes < frameSize fd →
      sizeAt fd data writtenBytes ≠ none → answerAt answers 0 = .fail e →
      r.ret = (if e = .ENOBUFS then (writtenBytes : Int) else -1) →
      acceptedBytes r.calls = [] → WritePass fd data answers writtenBytes r
  | nothing : ¬(data.length : Int) - writtenBytes < frameSize fd → sizeAt fd data writtenBytes ≠ none →
      (∀ e, answerAt answers 0 ≠ .fail e) →
      (answerAt answers 0).taken (offeredAt fd data writtenBytes) = [] → r.ret = writtenBytes →
      acceptedBytes r.calls = [] → WritePass fd data answers writtenBytes r
  | odd : ¬(data.length : Int) - writtenBytes < frameSize fd → sizeAt fd data writtenBytes ≠ none →
      (answerAt answers 0).taken (offeredAt fd data writtenBytes) ≠ [] →
      ((answerAt answers 0).taken (offeredAt fd data writtenBytes)).length ≠ frameSize fd →
      r.ret = -1 → acceptedBytes r.calls = (answerAt answers 0).taken (offeredAt fd data writtenBytes) →
      WritePass fd data answers writtenBytes r
  | next (answer : WriteAnswer) (rest : List WriteAnswer) : answers = answer :: rest →
      ¬(data.length : Int) - writtenBytes < frameSize fd → sizeAt fd data writtenBytes ≠ none →
      (∀ e, answer ≠ .fail e) →
      (answer.taken (offeredAt fd data writtenBytes)).length = frameSize fd →
      r.ret = (writeLoop fd data rest (writtenBytes + frameSize fd)).ret →
      r.calls = ⟨writtenBytes, offeredAt fd data writtenBytes, answer⟩ ::
        (writeLoop fd data rest (writtenBytes + frameSize fd)).calls →
      WritePass fd data answers writtenBytes r

theorem writeLoop_taken {fd : FlexibleDataRateFrames} {data : List UInt8} {answer : WriteAnswer}
    {answers : List WriteAnswer} {writtenBytes size : Nat}
    (room : ¬(data.length : Int) - writtenBytes < frameSize fd)
    (hs : sizeAt fd data writtenBytes = some size) (accepts : ∀ e, answer ≠ .fail e) :
    writeLoop fd data (answer :: answers) writtenBytes =
      (let bytes := (data.drop writtenBytes).take size
      let call : WriteCall := ⟨writtenBytes, bytes, answer⟩
      let looked := [writtenBytes + 6, writtenBytes + 7]
      let ret := (answer.taken bytes).length
      if ret = 0 then ⟨writtenBytes, [call], looked, none⟩
      else if ret ≠ frameSize fd then ⟨-1, [call], looked, none⟩
      else
        let r := writeLoop fd data answers (writtenBytes + ret)
        { r with calls := call :: r.calls, looked := looked ++ r.looked }) := by
  cases answer with
  | fail e => exact absurd rfl (accepts e)
  | all => simp only [writeLoop, if_neg room, hs]
  | count n => simp only [writeLoop, if_neg room, hs]

theorem writePass (fd : FlexibleDataRateFrames) (data : List UInt8) (answers : List WriteAnswer)
    (writtenBytes : Nat) :
    WritePass fd data answers writtenBytes (writeLoop fd data answers writtenBytes) := by
  by_cases room : (data.length : Int) - writtenBytes < frameSize fd
  · cases answers <;> exact .short room (by simp [writeLoop, room]) (by simp [writeLoop, room])
  cases hs : sizeAt fd data writtenBytes with
  | none =>
    cases answers <;>
      exact .malformed room hs (by simp [writeLoop, room, hs]) (by simp [writeLoop, room, hs])
  | some size =>
    have some_ne : sizeAt fd data writtenBytes ≠ none := by simp [hs]
    have offered : offeredAt fd data writtenBytes = (data.drop writtenBytes).take size := by
      simp [offeredAt, hs]
    cases answers with
    | nil =>
      exact .refused .EAGAIN room some_ne rfl (by simp [writeLoop, room, hs])
        (by simp [writeLoop, room, hs, WriteAnswer.taken])
    | cons answer answers =>
      by_cases hf : ∃ e, answer = .fail e
      · obtain ⟨e, rfl⟩ := hf
        refine .refused e room some_ne rfl ?_ ?_
        · by_cases he : e = .ENOBUFS <;> simp [writeLoop, room, hs, he]
        · by_cases he : e = .ENOBUFS <;> simp [writeLoop, room, hs, he, WriteAnswer.taken]
      · have accepts : ∀ e, answer ≠ .fail e := fun e h => hf ⟨e, h⟩
        rw [writeLoop_taken room hs accepts]
        dsimp only
        rw [← offered]
        by_cases hz : (answer.taken (offeredAt fd data writtenBytes)).length = 0
        · have empty := List.length_eq_zero_iff.mp hz
          rw [if_pos hz]
          exact .nothing room some_ne accepts empty rfl (by simp [empty])
        · rw [if_neg hz]
          by_cases hl : (answer.taken (offeredAt fd data writtenBytes)).length = frameSize fd
          · rw [if_neg (by simpa using hl), hl]
            exact .next answer answers rfl room some_ne accepts hl rfl rfl
          · rw [if_pos hl]
            exact .odd room some_ne (fun h => hz (by simpa [answerAt] using h)) hl rfl
              (by simp [answerAt])

theorem offeredAt_length {fd : FlexibleDataRateFrames} {data : List UInt8} {offset : Nat}
    (room : ¬(data.length : Int) - offset < frameSize fd) (hs : sizeAt fd data offset ≠ none) :
    (offeredAt fd data offset).length ≤ frameSize fd ∧ offeredAt fd data offset ≠ [] := by
  obtain ⟨size, hs⟩ := Option.ne_none_iff_exists'.mp hs
  obtain ⟨positive, bound⟩ := bytesToWrite_le hs
  have len : (offeredAt fd data offset).length = size := by
    simp only [offeredAt, hs, Option.getD_some, List.length_take, List.length_drop]
    omega
  refine ⟨by omega, ?_⟩
  intro empty
  simp only [empty, List.length_nil] at len
  omega

theorem taken_whole {fd : FlexibleDataRateFrames} {data : List UInt8} {offset : Nat}
    {answer : WriteAnswer} (room : ¬(data.length : Int) - offset < frameSize fd)
    (hs : sizeAt fd data offset ≠ none)
    (whole : (answer.taken (offeredAt fd data offset)).length = frameSize fd) :
    answer.taken (offeredAt fd data offset) = (data.drop offset).take (frameSize fd) := by
  have bound := (offeredAt_length room hs).1
  have same : answer.taken (offeredAt fd data offset) = offeredAt fd data offset := by
    rw [answer.taken_prefix, whole]
    exact List.take_of_length_le bound
  rw [same] at whole ⊢
  simp only [offeredAt, List.length_take] at whole ⊢
  exact List.take_eq_take_iff.mpr (by omega)

/-- The rule for the loop: what holds of it at an offset from what holds one whole frame on. -/
theorem writeLoop_by_frames {fd : FlexibleDataRateFrames} {data : List UInt8}
    {P : List WriteAnswer → Nat → WriteResult → Prop}
    (pass : ∀ answers writtenBytes, writtenBytes ≤ data.length →
      (∀ answer rest, answers = answer :: rest → writtenBytes + frameSize fd ≤ data.length →
        P rest (writtenBytes + frameSize fd) (writeLoop fd data rest (writtenBytes + frameSize fd))) →
      P answers writtenBytes (writeLoop fd data answers writtenBytes))
    {answers : List WriteAnswer} {writtenBytes : Nat} (inside : writtenBytes ≤ data.length) :
    P answers writtenBytes (writeLoop fd data answers writtenBytes) := by
  induction answers generalizing writtenBytes with
  | nil => exact pass [] _ inside (by simp)
  | cons answer answers ih =>
    refine pass _ _ inside ?_
    rintro answer' rest eq whole
    cases eq
    exact ih whole

/-- A batch that does not fail reports exactly the stretch of the block the kernel took. -/
theorem writeLoop_accepted {fd : FlexibleDataRateFrames} {data : List UInt8}
    {answers : List WriteAnswer} {writtenBytes : Nat} (inside : writtenBytes ≤ data.length)
    (ok : 0 ≤ (writeLoop fd data answers writtenBytes).ret) :
    ∃ n : Nat, (writeLoop fd data answers writtenBytes).ret = writtenBytes + n ∧
      writtenBytes + n ≤ data.length ∧
      acceptedBytes (writeLoop fd data answers writtenBytes).calls = (data.drop writtenBytes).take n := by
  refine writeLoop_by_frames (P := fun _ w r => 0 ≤ r.ret → ∃ n : Nat, r.ret = w + n ∧ w + n ≤ data.length ∧
    acceptedBytes r.calls = (data.drop w).take n) ?_ inside ok
  intro answers w within later ok
  cases writePass fd data answers w with
  | short _ hr hc => exact ⟨0, by simp [hr], by simpa using within, by simp [hc]⟩
  | malformed _ _ hr _ => omega
  | refused e _ _ _ hr hc =>
    by_cases he : e = .ENOBUFS
    · exact ⟨0, by simp [hr, he], by simpa using within, by simp [hc]⟩
    · rw [hr, if_neg he] at ok
      omega
  | nothing _ _ _ _ hr hc => exact ⟨0, by simp [hr], by simpa using within, by simp [hc]⟩
  | odd _ _ _ _ hr _ => omega
  | next answer rest eq room hs _ whole hr hc =>
    rw [hr] at ok ⊢
    obtain ⟨n, hn, bound, taken⟩ := later answer rest eq (by omega) ok
    refine ⟨frameSize fd + n, by omega, by omega, ?_⟩
    rw [hc, acceptedBytes_cons, taken, taken_whole room hs whole, List.take_add, List.drop_drop]

theorem rawWriteToSocket_accepted {fd : FlexibleDataRateFrames} {data : List UInt8}
    {answers : List WriteAnswer} (ok : 0 ≤ (rawWriteToSocket fd data answers).ret) :
    ∃ n : Nat, (rawWriteToSocket fd data answers).ret = n ∧ n ≤ data.length ∧
      acceptedBytes (rawWriteToSocket fd data answers).calls = data.take n := by
  obtain ⟨n, hr, bound, taken⟩ := @writeLoop_accepted fd data answers 0 (Nat.zero_le _) ok
  exact ⟨n, by simpa [rawWriteToSocket] using hr, by omega, by simpa [rawWriteToSocket] using taken⟩

theorem answerAt_drop (answers : List WriteAnswer) (k : Nat) :
    answerAt (answers.drop k) 0 = answerAt answers k := by
  simp [answerAt, List.getD_eq_getElem?_getD]

def PassClean (fd : FlexibleDataRateFrames) (data : List UInt8) (answers : List WriteAnswer) (k : Nat) : Prop :=
  (k = 0 ∨ sizeAt fd data (k * frameSize fd) ≠ none ∧
    ∀ e, answerAt answers k = .fail e → e = .ENOBUFS) ∧
  ((answerAt answers k).taken (offeredAt fd data (k * frameSize fd)) = [] ∨ GoesOn fd data answers k)

def CleanFrom (fd : FlexibleDataRateFrames) (data : List UInt8) (answers : List WriteAnswer) (k : Nat) : Prop :=
  ∀ i, k ≤ i → (i + 1) * frameSize fd ≤ data.length → (∀ j < i, GoesOn fd data answers j) →
    PassClean fd data answers i

theorem cleanFrom_stop {fd : FlexibleDataRateFrames} {data : List UInt8} {answers : List WriteAnswer}
    {k : Nat} (room : (k + 1) * frameSize fd ≤ data.length) (before : ∀ j < k, GoesOn fd data answers j)
    (stops : ¬GoesOn fd data answers k) :
    CleanFrom fd data answers k ↔ PassClean fd data answers k := by
  refine ⟨fun h => h k (Nat.le_refl k) room before, ?_⟩
  intro h i hi _ hj
  rcases Nat.eq_or_lt_of_le hi with rfl | hi
  · exact h
  · exact absurd (hj k hi) stops

theorem cleanFrom_next {fd : FlexibleDataRateFrames} {data : List UInt8} {answers : List WriteAnswer}
    {k : Nat} (pass : PassClean fd data answers k) :
    CleanFrom fd data answers k ↔ CleanFrom fd data answers (k + 1) := by
  refine ⟨fun h i hi => h i (by omega), ?_⟩
  intro h i hi
  rcases Nat.eq_or_lt_of_le hi with rfl | hi
  · exact fun _ _ => pass
  · exact h i hi

/-- One pass of the exactness argument; `next` is what the passes after a whole frame give. -/
theorem writePass_clean_iff {fd : FlexibleDataRateFrames} {data : List UInt8}
    {answers rest : List WriteAnswer} {k : Nat} {r : WriteResult}
    (here : answerAt rest 0 = answerAt answers k) (before : ∀ j < k, GoesOn fd data answers j)
    (pass : WritePass fd data rest (k * frameSize fd) r)
    (next : ∀ answer tail, rest = answer :: tail → GoesOn fd data answers k →
      (CleanFrom fd data answers (k + 1) ↔
        0 ≤ (writeLoop fd data tail ((k + 1) * frameSize fd)).ret)) :
    CleanFrom fd data answers k ↔ 0 ≤ r.ret ∨ k = 0 ∧ acceptedBytes r.calls = [] := by
  have positive := frameSize_pos fd
  have step : (k + 1) * frameSize fd = k * frameSize fd + frameSize fd := Nat.succ_mul _ _
  have stopped : (answerAt answers k).taken (offeredAt fd data (k * frameSize fd)) = [] →
      ¬GoesOn fd data answers k := by
    intro empty goes
    rw [GoesOn, empty, List.length_nil] at goes
    omega
  cases pass with
  | short room hr _ =>
    refine iff_of_true ?_ (Or.inl (by omega))
    intro i hi inside
    have : (k + 1) * frameSize fd ≤ (i + 1) * frameSize fd := Nat.mul_le_mul_right _ (by omega)
    omega
  | malformed room hs hr hc =>
    have empty : (answerAt answers k).taken (offeredAt fd data (k * frameSize fd)) = [] := by
      have offered : offeredAt fd data (k * frameSize fd) = [] := by simp [offeredAt, hs]
      rw [WriteAnswer.taken_prefix, offered, List.take_nil]
    rw [cleanFrom_stop (by omega) before (stopped empty)]
    simp [PassClean, hs, empty, hr, hc]
  | refused e room hs he hr hc =>
    rw [here] at he
    have empty : (answerAt answers k).taken (offeredAt fd data (k * frameSize fd)) = [] := by
      simp [he, WriteAnswer.taken]
    rw [cleanFrom_stop (by omega) before (stopped empty)]
    by_cases nobufs : e = .ENOBUFS
    · refine iff_of_true ⟨Or.inr ⟨hs, ?_⟩, Or.inl empty⟩ (Or.inl (by rw [hr, if_pos nobufs]; omega))
      intro f hf
      rw [he] at hf
      cases hf
      exact nobufs
    · simp [PassClean, hs, he, WriteAnswer.taken, nobufs, hr, hc]
  | nothing room hs accepts empty hr hc =>
    rw [here] at accepts empty
    rw [cleanFrom_stop (by omega) before (stopped empty)]
    exact iff_of_true ⟨Or.inr ⟨hs, fun e he => absurd he (accepts e)⟩, Or.inl empty⟩
      (Or.inl (by omega))
  | odd room hs nonempty size hr hc =>
    rw [here] at nonempty size hc
    have stops : ¬GoesOn fd data answers k := size
    rw [cleanFrom_stop (by omega) before stops]
    simp [PassClean, nonempty, stops, hr, hc]
  | next answer tail eq room hs accepts whole hr hc =>
    have same : answer = answerAt answers k := by rw [← here, eq]; rfl
    rw [same] at accepts whole hc
    have goes : GoesOn fd data answers k := whole
    have clean : PassClean fd data answers k :=
      ⟨Or.inr ⟨hs, fun e he => absurd he (accepts e)⟩, Or.inr goes⟩
    have nonempty : acceptedBytes r.calls ≠ [] := by
      rw [hc, acceptedBytes_cons]
      intro empty
      rw [(List.append_eq_nil_iff.mp empty).1, List.length_nil] at whole
      omega
    rw [cleanFrom_next clean, next answer tail eq goes, hr, step]
    simp [nonempty]

/-- The condition is exact: a clean batch either succeeds or the kernel took nothing of it. -/
theorem writeLoop_clean_iff {fd : FlexibleDataRateFrames} {data : List UInt8}
    {answers : List WriteAnswer} (rest : List WriteAnswer) (k : Nat) (drop : answers.drop k = rest)
    (before : ∀ j < k, GoesOn fd data answers j) :
    CleanFrom fd data answers k ↔
      0 ≤ (writeLoop fd data rest (k * frameSize fd)).ret ∨
        k = 0 ∧ acceptedBytes (writeLoop fd data rest (k * frameSize fd)).calls = [] := by
  have here : answerAt rest 0 = answerAt answers k := by rw [← drop, answerAt_drop]
  induction rest generalizing k with
  | nil => exact writePass_clean_iff here before (writePass _ _ _ _) (by simp)
  | cons answer rest ih =>
    apply writePass_clean_iff here before (writePass _ _ _ _)
    intro answer' tail eq goes
    cases eq
    have dropped : answers.drop (k + 1) = rest := by
      rw [← List.drop_drop, drop, List.drop_one, List.tail_cons]
    have before' : ∀ j < k + 1, GoesOn fd data answers j := by
      intro j hj
      rcases Nat.lt_succ_iff_lt_or_eq.mp hj with hj | rfl
      · exact before j hj
      · exact goes
    have := ih (k + 1) dropped before' (by rw [← dropped, answerAt_drop])
    simpa using this

theorem rawWriteToSocket_clean_iff {fd : FlexibleDataRateFrames} {data : List UInt8}
    {answers : List WriteAnswer} :
    WriteBatchClean fd data answers ↔
      0 ≤ (rawWriteToSocket fd data answers).ret ∨
        acceptedBytes (rawWriteToSocket fd data answers).calls = [] := by
  have h := @writeLoop_clean_iff fd data answers answers 0 rfl (by simp)
  simpa [CleanFrom, WriteBatchClean, PassClean, rawWriteToSocket] using h

end CanSocket
