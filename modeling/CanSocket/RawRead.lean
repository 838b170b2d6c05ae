import CanSocket.Kernel

namespace CanSocket

/-- A received frame with its reserved bytes overwritten by the tags of its size. -/
def tagFrame (frame : List UInt8) : List UInt8 :=
  (frame.set 6 (res0FromCanMtu frame.length)).set 7 (res1FromCanMtu frame.length)

/-- The loop of `CanRawSocketPrivate::readFromSocket`; `data` are the bytes stored so far, so
its length is both `readBytes` and the advance of the pointer. A socket with no further
answer has nothing queued. -/
def readLoop (fd : FlexibleDataRateFrames) (maxSize : Int) :
    List ReadAnswer → List UInt8 → ReadResult
  | [], data =>
    if (data.length : Int) ≤ maxSize - frameSize fd then
      ⟨data.length, data, [⟨data.length, frameSize fd, .fail .EAGAIN⟩], some .EAGAIN⟩
    else ⟨data.length, data, [], none⟩
  | answer :: answers, data =>
    if (data.length : Int) ≤ maxSize - frameSize fd then
      let call : ReadCall := ⟨data.length, frameSize fd, answer⟩
      match answer with
      | .fail e =>
        if e = .EAGAIN then ⟨data.length, data, [call], some e⟩
        else ⟨-1, data, [call], some e⟩
      | .got bytes =>
        let frame := bytes.take (frameSize fd)
        if frame.length = 0 then ⟨data.length, data, [call], none⟩
        else if frame.length = canMtu ∨ frame.length = canfdMtu ∧ frameSize fd = frame.length then
          let r := readLoop fd maxSize answers (data ++ tagFrame frame)
          { r with calls := call :: r.calls }
        else ⟨-1, data ++ frame, [call], none⟩
    else ⟨data.length, data, [], none⟩

def rawReadFromSocket (fd : FlexibleDataRateFrames) (maxSize : Int)
    (answers : List ReadAnswer) : ReadResult :=
  readLoop fd maxSize answers []

@[simp] theorem tagFrame_length (frame : List UInt8) : (tagFrame frame).length = frame.length := by
  simp [tagFrame]

theorem tagFrame_ne_nil {frame : List UInt8} (h : frame ≠ []) : tagFrame frame ≠ [] := by
  simpa [tagFrame] using h

theorem handedFrames_cons_got (offset length : Nat) (bytes : List UInt8) (calls : List ReadCall) :
    handedFrames (⟨offset, length, .got bytes⟩ :: calls) =
      if bytes.take length = [] then handedFrames calls
      else bytes.take length :: handedFrames calls := by
  by_cases h : bytes.take length = []
  · simp [handedFrames, ReadCall.handed, h]
  · simp [handedFrames, ReadCall.handed, h]

@[simp] theorem handedFrames_cons_fail (offset length : Nat) (e : Errno) (calls : List ReadCall) :
    handedFrames (⟨offset, length, .fail e⟩ :: calls) = handedFrames calls := rfl

theorem readLoop_ret (fd : FlexibleDataRateFrames) (maxSize : Int) (answers : List ReadAnswer)
    (data : List UInt8) :
    (readLoop fd maxSize answers data).ret = -1 ∨
      (readLoop fd maxSize answers data).ret = (readLoop fd maxSize answers data).data.length := by
  induction answers generalizing data with
  | nil => unfold readLoop; split <;> exact Or.inr rfl
  | cons answer answers ih =>
    unfold readLoop
    split
    next room =>
      cases answer with
      | fail e => by_cases he : e = .EAGAIN <;> simp [he]
      | got bytes =>
        dsimp only
        split
        next => exact Or.inr rfl
        next =>
          split
          next => exact ih _
          next => exact Or.inl rfl
    next => exact Or.inr rfl

/-- A batch that does not fail has stored exactly the frames it was handed, tagged. -/
theorem readLoop_data {fd : FlexibleDataRateFrames} {maxSize : Int} {answers : List ReadAnswer}
    {data : List UInt8} (ok : 0 ≤ (readLoop fd maxSize answers data).ret) :
    (readLoop fd maxSize answers data).data =
      data ++ (handedFrames (readLoop fd maxSize answers data).calls).flatMap tagFrame := by
  induction answers generalizing data with
  | nil => unfold readLoop; split <;> simp
  | cons answer answers ih =>
    unfold readLoop at ok ⊢
    split
    next room =>
      rw [if_pos room] at ok
      cases answer with
      | fail e =>
        by_cases he : e = .EAGAIN
        · simp [he]
        · simp [he] at ok
      | got bytes =>
        dsimp only at ok ⊢
        by_cases hz : (bytes.take (frameSize fd)).length = 0
        · have empty : bytes.take (frameSize fd) = [] := List.length_eq_zero_iff.mp hz
          simp [handedFrames_cons_got, empty]
        · rw [if_neg hz] at ok ⊢
          split at ok
          next size =>
            have nonempty : bytes.take (frameSize fd) ≠ [] := fun h => hz (by simp [h])
            rw [if_pos size, handedFrames_cons_got, if_neg nonempty]
            simpa using ih ok
          next => simp at ok
    next => simp

theorem readLoop_calls_inside {fd : FlexibleDataRateFrames} {maxSize : Int}
    {answers : List ReadAnswer} {data : List UInt8} :
    ∀ call ∈ (readLoop fd maxSize answers data).calls, (call.offset + call.length : Int) ≤ maxSize := by
  induction answers generalizing data with
  | nil =>
    unfold readLoop
    split
    next room =>
      intro call hc
      obtain rfl := List.mem_singleton.mp hc
      dsimp only
      omega
    next => simp
  | cons answer answers ih =>
    unfold readLoop
    split
    next room =>
      have here : ∀ call : ReadCall, call = ⟨data.length, frameSize fd, answer⟩ →
          (call.offset + call.length : Int) ≤ maxSize := by
        rintro call rfl
        dsimp only
        omega
      have only : ∀ call ∈ [(⟨data.length, frameSize fd, answer⟩ : ReadCall)],
          (call.offset + call.length : Int) ≤ maxSize :=
        fun call hc => here call (List.mem_singleton.mp hc)
      cases answer with
      | fail e => dsimp only; split <;> exact only
      | got bytes =>
        dsimp only
        split
        next => exact only
        next =>
          split
          next =>
            intro call hc
            rcases List.mem_cons.mp hc with hc | hc
            · exact here call hc
            · exact ih call hc
          next => exact only
    next => simp

theorem readLoop_calls_asked {fd : FlexibleDataRateFrames} {maxSize : Int} {answers : List ReadAnswer}
    {data : List UInt8} :
    ∀ call ∈ (readLoop fd maxSize answers data).calls,
      call.length = frameSize fd ∧ (call.answer ∈ answers ∨ call.answer = .fail .EAGAIN) := by
  induction answers generalizing data with
  | nil =>
    unfold readLoop
    split
    next =>
      intro call hc
      obtain rfl := List.mem_singleton.mp hc
      exact ⟨rfl, Or.inr rfl⟩
    next => simp
  | cons answer answers ih =>
    unfold readLoop
    split
    next room =>
      have only : ∀ call ∈ [(⟨data.length, frameSize fd, answer⟩ : ReadCall)],
          call.length = frameSize fd ∧ (call.answer ∈ answer :: answers ∨ call.answer = .fail .EAGAIN) := by
        intro call hc
        obtain rfl := List.mem_singleton.mp hc
        exact ⟨rfl, Or.inl (by simp)⟩
      cases answer with
      | fail e => dsimp only; split <;> exact only
      | got bytes =>
        dsimp only
        split
        next => exact only
        next =>
          split
          next =>
            intro call hc
            rcases List.mem_cons.mp hc with hc | hc
            · exact only call (by simp [hc])
            · obtain ⟨size, asked | again⟩ := ih call hc
              · exact ⟨size, Or.inl (by simp [asked])⟩
              · exact ⟨size, Or.inr again⟩
          next => exact only
    next => simp

theorem readLoop_data_inside {fd : FlexibleDataRateFrames} {maxSize : Int}
    {answers : List ReadAnswer} {data : List UInt8} (room : (data.length : Int) ≤ max maxSize 0) :
    ((readLoop fd maxSize answers data).data.length : Int) ≤ max maxSize 0 := by
  induction answers generalizing data with
  | nil => unfold readLoop; split <;> exact room
  | cons answer answers ih =>
    unfold readLoop
    split
    next fits =>
      cases answer with
      | fail e => dsimp only; split <;> exact room
      | got bytes =>
        have short : (bytes.take (frameSize fd)).length ≤ frameSize fd := List.length_take_le _ _
        dsimp only
        split
        next => exact room
        next =>
          split
          next =>
            apply ih
            simp only [List.length_append, tagFrame_length]
            omega
          next =>
            simp only [List.length_append]
            omega
    next => exact room

/-- Answers a SocketCAN descriptor gives: a classic frame, in FD mode also an FD frame,
nothing, or a failure. -/
def ReadAnswer.OnBus (fd : FlexibleDataRateFrames) : ReadAnswer → Prop
  | .got bytes => bytes = [] ∨ bytes.length = canMtu ∨ fd = .enabledFdFrames ∧ bytes.length = canfdMtu
  | .fail _ => True

def ReadAnswer.bytes : ReadAnswer → List UInt8
  | .got bytes => bytes
  | .fail _ => []

theorem ReadAnswer.OnBus.size {fd : FlexibleDataRateFrames} {bytes : List UInt8}
    (h : (ReadAnswer.got bytes).OnBus fd) (nonempty : bytes ≠ []) :
    bytes.take (frameSize fd) = bytes ∧
      (bytes.length = canMtu ∨ bytes.length = canfdMtu ∧ frameSize fd = bytes.length) := by
  rcases h with h | h | ⟨hf, h⟩
  · exact absurd h nonempty
  · exact ⟨List.take_of_length_le (h ▸ canMtu_le_frameSize fd), Or.inl h⟩
  · have size : frameSize fd = canfdMtu := by simp [frameSize, hf]
    exact ⟨List.take_of_length_le (by omega), Or.inr ⟨h, by omega⟩⟩

/-- In this batch no failing `::read` follows a frame: where the answers give frames and then
a failure other than `EAGAIN`, the room is used up before that answer is asked for. -/
def ReadBatchClean (fd : FlexibleDataRateFrames) (maxSize : Int) (answers : List ReadAnswer) : Prop :=
  ∀ frames e rest, answers = frames ++ .fail e :: rest → e ≠ .EAGAIN →
    (∀ a ∈ frames, a.bytes ≠ []) → frames ≠ [] →
      maxSize < (frames.flatMap ReadAnswer.bytes).length + frameSize fd

def ReadRestClean (fd : FlexibleDataRateFrames) (maxSize : Int) (answers : List ReadAnswer)
    (data : List UInt8) : Prop :=
  ∀ frames e rest, answers = frames ++ .fail e :: rest → e ≠ .EAGAIN →
    (∀ a ∈ frames, a.bytes ≠ []) → data ≠ [] ∨ frames ≠ [] →
      maxSize < data.length + (frames.flatMap ReadAnswer.bytes).length + frameSize fd

theorem readRestClean_of_full {fd : FlexibleDataRateFrames} {maxSize : Int}
    {answers : List ReadAnswer} {data : List UInt8}
    (full : ¬(data.length : Int) ≤ maxSize - frameSize fd) : ReadRestClean fd maxSize answers data := by
  intro frames e rest _ _ _ _
  omega

theorem readRestClean_fail {fd : FlexibleDataRateFrames} {maxSize : Int} {e : Errno}
    {answers : List ReadAnswer} {data : List UInt8}
    (room : (data.length : Int) ≤ maxSize - frameSize fd) :
    ReadRestClean fd maxSize (.fail e :: answers) data ↔ (e = .EAGAIN ∨ data = []) := by
  constructor
  · intro clean
    by_contra h
    obtain ⟨he, hd⟩ := not_or.mp h
    have := clean [] e answers rfl he (by simp) (Or.inl hd)
    simp only [List.flatMap_nil, List.length_nil] at this
    omega
  · intro h frames f rest eq hf hframes hne
    cases frames with
    | nil =>
      obtain ⟨h1, _⟩ := List.cons.inj eq
      cases h1
      rcases h with h | h
      · exact absurd h hf
      · rcases hne with hne | hne
        · exact absurd h hne
        · exact absurd rfl hne
    | cons a frames =>
      obtain ⟨h1, _⟩ := List.cons.inj eq
      exact absurd (by rw [← h1]; rfl) (hframes a (by simp))

theorem readRestClean_empty {fd : FlexibleDataRateFrames} {maxSize : Int}
    {answers : List ReadAnswer} {data : List UInt8} :
    ReadRestClean fd maxSize (.got [] :: answers) data := by
  intro frames e rest eq _ hframes _
  cases frames with
  | nil => simp at eq
  | cons a frames =>
    obtain ⟨h1, _⟩ := List.cons.inj eq
    exact absurd (by rw [← h1]; rfl) (hframes a (by simp))

theorem readRestClean_frame {fd : FlexibleDataRateFrames} {maxSize : Int} {bytes : List UInt8}
    {answers : List ReadAnswer} {data : List UInt8} (nonempty : bytes ≠ []) :
    ReadRestClean fd maxSize (.got bytes :: answers) data ↔
      ReadRestClean fd maxSize answers (data ++ tagFrame bytes) := by
  constructor
  · intro clean frames e rest eq he hframes _
    have all : ∀ a ∈ ReadAnswer.got bytes :: frames, a.bytes ≠ [] := by
      intro a ha
      rcases List.mem_cons.mp ha with rfl | ha
      · exact nonempty
      · exact hframes a ha
    have := clean (.got bytes :: frames) e rest (by rw [eq]; rfl) he all (Or.inr (by simp))
    simp only [List.flatMap_cons, List.length_append, tagFrame_length, ReadAnswer.bytes] at this ⊢
    omega
  · intro clean frames e rest eq he hframes _
    cases frames with
    | nil => simp at eq
    | cons a frames =>
      obtain ⟨h1, h2⟩ := List.cons.inj eq
      have := clean frames e rest h2 he (fun x hx => hframes x (by simp [hx]))
        (Or.inl (by simp [tagFrame_ne_nil nonempty]))
      simp only [← h1, List.flatMap_cons, List.length_append, tagFrame_length, ReadAnswer.bytes] at this ⊢
      omega

/-- The condition is exact: a clean batch either succeeds or has taken nothing from the kernel. -/
theorem readLoop_clean_iff {fd : FlexibleDataRateFrames} {maxSize : Int} {answers : List ReadAnswer}
    (bus : ∀ a ∈ answers, a.OnBus fd) (data : List UInt8) :
    ReadRestClean fd maxSize answers data ↔
      0 ≤ (readLoop fd maxSize answers data).ret ∨
        data = [] ∧ handedFrames (readLoop fd maxSize answers data).calls = [] := by
  induction answers generalizing data with
  | nil =>
    have ok : 0 ≤ (readLoop fd maxSize [] data).ret := by unfold readLoop; split <;> simp
    refine iff_of_true ?_ (Or.inl ok)
    intro frames e rest eq
    simp at eq
  | cons answer answers ih =>
    unfold readLoop
    split
    next room =>
      cases answer with
      | fail e =>
        rw [readRestClean_fail room]
        by_cases he : e = .EAGAIN
        · simp [he]
        · simp [he]
      | got bytes =>
        by_cases hb : bytes = []
        · subst hb
          exact iff_of_true readRestClean_empty (Or.inl (by simp))
        · obtain ⟨whole, size⟩ := (bus (.got bytes) (by simp)).size hb
          have nonzero : ¬bytes.length = 0 := fun h => hb (List.length_eq_zero_iff.mp h)
          have tagged : tagFrame bytes ≠ [] := tagFrame_ne_nil hb
          simp only [whole, if_neg nonzero, if_pos size]
          rw [readRestClean_frame hb, ih (fun a ha => bus a (by simp [ha])), handedFrames_cons_got,
            whole, if_neg hb]
          simp [tagged]
    next full => exact iff_of_true (readRestClean_of_full full) (Or.inl (by simp))

theorem rawReadFromSocket_clean_iff {fd : FlexibleDataRateFrames} {maxSize : Int}
    {answers : List ReadAnswer} (bus : ∀ a ∈ answers, a.OnBus fd) :
    ReadBatchClean fd maxSize answers ↔
      0 ≤ (rawReadFromSocket fd maxSize answers).ret ∨
        handedFrames (rawReadFromSocket fd maxSize answers).calls = [] := by
  have h := @readLoop_clean_iff fd maxSize answers bus []
  simpa [ReadRestClean, ReadBatchClean, rawReadFromSocket] using h

end CanSocket
