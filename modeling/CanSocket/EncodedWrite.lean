import CanSocket.FrameStream
import CanSocket.RawWrite

namespace CanSocket

open Endian

/-- The size the mode allows for this frame, none for an FD frame outside FD mode. -/
def sizeOnWire (fd : FlexibleDataRateFrames) (d : CanFrameData) : Option Nat :=
  if d.isFdFrame then if fd = .enabledFdFrames then some canfdMtu else none else some canMtu

theorem bytesToWrite_res (fd : FlexibleDataRateFrames) {d : CanFrameData} (h : d.isValid = true) :
    bytesToWrite fd d.res0 d.res1 = sizeOnWire fd d := by
  rcases CanFrameData.classic_or_flexible h with ⟨hf, h0, h1, _⟩ | ⟨hf, h0, h1, _⟩
  · simp [bytesToWrite, sizeOnWire, hf, h0, h1, res0FromCanMtu, res1FromCanMtu]
  · simp [bytesToWrite, sizeOnWire, hf, h0, h1, res0FromCanMtu, res1FromCanMtu, canMtu, canfdMtu]

theorem putFrame_reserved (order : ByteOrder) {d : CanFrameData} (h : d.isValid = true) :
    (putFrame order d)[6]? = some d.res0 ∧ (putFrame order d)[7]? = some d.res1 := by
  rw [putFrame_of_isValid order h, wireBytes]
  constructor
  · rw [List.getElem?_append_right (by simp)]
    simp
  · rw [List.getElem?_append_right (by simp)]
    simp

theorem sizeAt_putFrame (fd : FlexibleDataRateFrames) (order : ByteOrder) {d : CanFrameData}
    (h : d.isValid = true) (before rest : List UInt8) :
    sizeAt fd (before ++ (putFrame order d ++ rest)) before.length = sizeOnWire fd d := by
  have look : ∀ {i : Nat} {b : UInt8}, (putFrame order d)[i]? = some b →
      (before ++ (putFrame order d ++ rest)).getD (before.length + i) 0 = b := by
    intro i b hb
    obtain ⟨inside, _⟩ := List.getElem?_eq_some_iff.mp hb
    rw [List.getD_eq_getElem?_getD, List.getElem?_append_right (by omega), Nat.add_sub_cancel_left,
      List.getElem?_append_left inside, hb]
    rfl
  rw [sizeAt, look (putFrame_reserved order h).1, look (putFrame_reserved order h).2,
    bytesToWrite_res fd h]

theorem putFrame_length_pos (order : ByteOrder) {d : CanFrameData} (h : d.isValid = true) :
    canMtu ≤ (putFrame order d).length := by
  rw [putFrame_length order h]
  split <;> decide

theorem sizeOnWire_eq_length {fd : FlexibleDataRateFrames} (order : ByteOrder) {d : CanFrameData}
    (h : d.isValid = true) (mode : fd ≠ .enabledFdFrames → d.isFdFrame = false) :
    sizeOnWire fd d = some (putFrame order d).length := by
  rw [putFrame_length order h, sizeOnWire]
  cases hf : d.isFdFrame with
  | false => rfl
  | true =>
    have enabled : fd = .enabledFdFrames := by
      by_contra hn
      rw [mode hn] at hf
      cases hf
    simp [enabled]

theorem offeredAt_putFrame {fd : FlexibleDataRateFrames} (order : ByteOrder) {d : CanFrameData}
    (h : d.isValid = true) (mode : fd ≠ .enabledFdFrames → d.isFdFrame = false)
    (before rest : List UInt8) :
    offeredAt fd (before ++ (putFrame order d ++ rest)) before.length = putFrame order d := by
  rw [offeredAt, sizeAt_putFrame fd order h, sizeOnWire_eq_length order h mode, List.drop_left,
    Option.getD_some, List.take_left]

variable {fd : FlexibleDataRateFrames} {order : ByteOrder}

theorem writeLoop_encoded {frames : List CanFrameData} (valid : ∀ d ∈ frames, d.isValid = true)
    (mode : fd ≠ .enabledFdFrames → ∀ d ∈ frames, d.isFdFrame = false)
    (size : ∀ d ∈ frames, (putFrame order d).length = frameSize fd)
    {answers : List WriteAnswer} (accepts : ∀ a ∈ answers, a = .all)
    (enough : frames.length ≤ answers.length) (before : List UInt8) :
    (writeLoop fd (before ++ frames.flatMap (putFrame order)) answers before.length).calls.map
        WriteCall.bytes = frames.map (putFrame order) ∧
      (writeLoop fd (before ++ frames.flatMap (putFrame order)) answers before.length).ret =
        before.length + (frames.flatMap (putFrame order)).length := by
  induction frames generalizing answers before with
  | nil =>
    have positive := frameSize_pos fd
    cases writePass fd (before ++ [].flatMap (putFrame order)) answers before.length with
    | short _ hr hc => exact ⟨by simpa using hc, by simpa using hr⟩
    | malformed room _ _ _ => simp at room; omega
    | refused _ room _ _ _ _ => simp at room; omega
    | nothing room _ _ _ _ _ => simp at room; omega
    | odd room _ _ _ _ _ => simp at room; omega
    | next _ _ _ room _ _ _ _ _ => simp at room; omega
  | cons d frames ih =>
    have hv := valid d (by simp)
    have hm : fd ≠ .enabledFdFrames → d.isFdFrame = false := fun hn => mode hn d (by simp)
    have hl := size d (by simp)
    have positive := frameSize_pos fd
    obtain ⟨answer, answers, rfl⟩ := List.exists_cons_of_length_pos (l := answers) (by
      simp only [List.length_cons] at enough
      omega)
    have all : answer = .all := accepts answer (by simp)
    subst all
    have later : ∀ a ∈ answers, a = .all := fun a ha => accepts a (by simp [ha])
    simp only [List.flatMap_cons]
    have hs := sizeAt_putFrame fd order hv before (frames.flatMap (putFrame order))
    rw [sizeOnWire_eq_length order hv hm] at hs
    have offered := offeredAt_putFrame order hv hm before (frames.flatMap (putFrame order))
    cases writePass fd (before ++ (putFrame order d ++ frames.flatMap (putFrame order)))
        (.all :: answers) before.length with
    | short room _ _ => simp only [List.length_append] at room; omega
    | malformed _ none _ _ => rw [hs] at none; cases none
    | refused e _ _ he _ _ => cases he
    | nothing _ _ _ empty _ _ =>
      have : putFrame order d = [] := by rw [← offered]; exact empty
      rw [this, List.length_nil] at hl
      omega
    | odd _ _ _ size _ _ =>
      rw [offered] at size
      exact absurd hl size
    | next answer rest eq _ _ _ _ hr hc =>
      cases eq
      have step := ih (fun x hx => valid x (by simp [hx])) (fun hn x hx => mode hn x (by simp [hx]))
        (fun x hx => size x (by simp [hx])) later (by simpa using enough) (before ++ putFrame order d)
      simp only [List.length_append, List.append_assoc, hl] at step
      refine ⟨?_, ?_⟩
      · simp only [hc, List.map_cons, step.1, offered]
      · rw [hr, step.2, List.length_append, hl]
        omega

/-- In FD mode a classic frame in the list keeps the result off the total. -/
theorem writeLoop_classic_in_fd {frames : List CanFrameData} (valid : ∀ d ∈ frames, d.isValid = true)
    (enabled : fd = .enabledFdFrames) (classic : ∃ d ∈ frames, d.isFdFrame = false)
    {answers : List WriteAnswer} (accepts : ∀ a ∈ answers, a = .all)
    (enough : frames.length ≤ answers.length) (before : List UInt8) :
    (writeLoop fd (before ++ frames.flatMap (putFrame order)) answers before.length).ret ≠
      before.length + (frames.flatMap (putFrame order)).length := by
  induction frames generalizing answers before with
  | nil => simp at classic
  | cons d frames ih =>
    have hv := valid d (by simp)
    have hm : fd ≠ .enabledFdFrames → d.isFdFrame = false := fun hn => absurd enabled hn
    have hl := putFrame_length order hv
    have positive := putFrame_length_pos order hv
    have hsize : frameSize fd = canfdMtu := by simp [frameSize, enabled]
    obtain ⟨answer, answers, rfl⟩ := List.exists_cons_of_length_pos (l := answers) (by
      simp only [List.length_cons] at enough
      omega)
    have all : answer = .all := accepts answer (by simp)
    subst all
    have others : ∀ a ∈ answers, a = .all := fun a ha => accepts a (by simp [ha])
    simp only [List.flatMap_cons]
    have offered := offeredAt_putFrame order hv hm before (frames.flatMap (putFrame order))
    have mtu : 0 < canMtu := by decide
    cases writePass fd (before ++ (putFrame order d ++ frames.flatMap (putFrame order)))
        (.all :: answers) before.length with
    | short _ hr _ =>
      rw [hr, List.length_append]
      omega
    | malformed _ _ hr _ => rw [hr]; omega
    | refused e _ _ he _ _ => cases he
    | nothing _ _ _ _ hr _ =>
      rw [hr, List.length_append]
      omega
    | odd _ _ _ _ hr _ => rw [hr]; omega
    | next answer rest eq _ _ _ whole hr _ =>
      cases eq
      have whole' : (putFrame order d).length = frameSize fd := by rw [← offered]; exact whole
      have flexible : d.isFdFrame = true := by
        by_contra hn
        rw [hl, if_neg hn, hsize] at whole'
        exact absurd whole' (by decide)
      have later : ∃ x ∈ frames, x.isFdFrame = false := by
        obtain ⟨x, hx, hc⟩ := classic
        rcases List.mem_cons.mp hx with rfl | hx
        · rw [flexible] at hc
          cases hc
        · exact ⟨x, hx, hc⟩
      have step := ih (fun x hx => valid x (by simp [hx])) later others (by simpa using enough)
        (before ++ putFrame order d)
      simp only [List.length_append, List.append_assoc, whole'] at step
      rw [hr, List.length_append, whole']
      omega

/-- `writeToSocket` sends each frame of the encoded list by one `::write` of its own bytes. -/
def SendsEach (fd : FlexibleDataRateFrames) (order : ByteOrder) (frames : List CanFrameData)
    (answers : List WriteAnswer) : Prop :=
  (rawWriteToSocket fd (frames.flatMap (putFrame order)) answers).calls.map WriteCall.bytes =
      frames.map (putFrame order) ∧
    (rawWriteToSocket fd (frames.flatMap (putFrame order)) answers).ret =
      (frames.flatMap (putFrame order)).length

instance (fd : FlexibleDataRateFrames) (order : ByteOrder) (frames : List CanFrameData)
    (answers : List WriteAnswer) : Decidable (SendsEach fd order frames answers) := by
  unfold SendsEach
  infer_instance

/-- Outside FD mode every list of classic frames is sent; in FD mode exactly the lists
of FD frames only are, since the loop counts every frame as an FD frame. -/
theorem sendsEach_iff (order : ByteOrder) {fd : FlexibleDataRateFrames} {frames : List CanFrameData}
    (valid : ∀ d ∈ frames, d.isValid = true)
    (mode : fd ≠ .enabledFdFrames → ∀ d ∈ frames, d.isFdFrame = false)
    {answers : List WriteAnswer} (accepts : ∀ a ∈ answers, a = .all)
    (enough : frames.length ≤ answers.length) :
    SendsEach fd order frames answers ↔
      (fd = .enabledFdFrames → ∀ d ∈ frames, d.isFdFrame = true) := by
  constructor
  · intro sends enabled d hd
    by_contra hn
    have classic : ∃ d ∈ frames, d.isFdFrame = false := ⟨d, hd, by simpa using hn⟩
    apply @writeLoop_classic_in_fd fd order frames valid enabled classic answers accepts enough []
    simpa [rawWriteToSocket] using sends.2
  · intro flexible
    have size : ∀ d ∈ frames, (putFrame order d).length = frameSize fd := by
      intro d hd
      rw [putFrame_length order (valid d hd), frameSize]
      by_cases enabled : fd = .enabledFdFrames
      · simp [enabled, flexible enabled d hd]
      · simp [enabled, mode enabled d hd]
    have sent := writeLoop_encoded valid mode size accepts enough []
    exact ⟨by simpa [rawWriteToSocket] using sent.1, by simpa [rawWriteToSocket] using sent.2⟩

theorem sendsEach_iff_classic :
    SendsEach .disabledFdFrames .littleEndian [classicSample, classicSample] [.all, .all] ↔
      (FlexibleDataRateFrames.disabledFdFrames = .enabledFdFrames →
        ∀ d ∈ [classicSample, classicSample], d.isFdFrame = true) :=
  sendsEach_iff .littleEndian (by decide) (by decide) (by decide) (by decide)

/-- In FD mode a classic frame goes out and is then taken for a failure, as its length is
not that of an FD frame. -/
theorem sendsEach_fails :
    (∀ d ∈ [classicSample, fdSample], d.isValid = true) ∧
      (rawWriteToSocket .enabledFdFrames ([classicSample, fdSample].flatMap (putFrame .littleEndian))
        [.all, .all]).ret = -1 ∧
      ¬SendsEach .enabledFdFrames .littleEndian [classicSample, fdSample] [.all, .all] := by
  decide

end CanSocket
