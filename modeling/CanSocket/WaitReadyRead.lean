import CanSocket.WaitLoops

namespace CanSocket

open TurnLoop

/-- With this room and these answers a read comes back without an error and without a byte. -/
def Protocol.NothingToRead (p : Protocol) (room : Int) (answers : List ReadAnswer) : Prop :=
  match p with
  | .raw options => room < frameSize options.flexibleDataRateFrames ∨ answers.head? = none ∨
      answers.head? = some (.fail .EAGAIN) ∨ answers.head? = some (.got [])
  | .isoTp _ => 0 ≤ room ∧ (answers.dropWhile (· = .fail .EINTR)).head? = some (.got [])

theorem readLoop_ret_ne_zero (fd : FlexibleDataRateFrames) (maxSize : Int) (answers : List ReadAnswer)
    {data : List UInt8} (nonempty : data ≠ []) : (readLoop fd maxSize answers data).ret ≠ 0 := by
  have longer := (readLoop_begins fd maxSize answers data).length_le
  have positive := List.length_pos_iff.mpr nonempty
  have ret := readLoop_ret fd maxSize answers data
  omega

theorem rawRead_zero_iff (fd : FlexibleDataRateFrames) (room : Int) (answers : List ReadAnswer) :
    (rawReadFromSocket fd room answers).ret = 0 ↔ room < frameSize fd ∨ answers.head? = none ∨
      answers.head? = some (.fail .EAGAIN) ∨ answers.head? = some (.got []) := by
  have positive := frameSize_pos fd
  unfold rawReadFromSocket
  by_cases fits : (([] : List UInt8).length : Int) ≤ room - frameSize fd
  · have enough : ¬room < frameSize fd := by
      simp only [List.length_nil] at fits
      omega
    cases answers with
    | nil =>
      unfold readLoop
      rw [if_pos fits]
      simp
    | cons answer answers =>
      unfold readLoop
      rw [if_pos fits]
      cases answer with
      | fail e => by_cases again : e = .EAGAIN <;> simp [again, enough]
      | got bytes =>
        by_cases empty : bytes = []
        · simp [empty]
        · have taken : bytes.take (frameSize fd) ≠ [] := by
            simp [empty, Nat.pos_iff_ne_zero.mp positive]
          have nonzero : ¬(bytes.take (frameSize fd)).length = 0 := fun h => taken (List.length_eq_zero_iff.mp h)
          refine iff_of_false ?_ (by simp [enough, empty])
          simp only [if_neg nonzero]
          split
          · exact readLoop_ret_ne_zero _ _ _ (by simp [tagFrame_ne_nil taken])
          · simp
  · have small : room < frameSize fd := by
      simp only [List.length_nil] at fits
      omega
    refine iff_of_true ?_ (Or.inl small)
    cases answers <;> simp only [readLoop, if_neg fits] <;> rfl

theorem isoTpRead_zero_iff {room : Int} (notFull : room ≠ 0) (answers : List ReadAnswer) :
    (isoTpReadFromSocket room answers).ret = 0 ↔
      0 ≤ room ∧ (answers.dropWhile (· = .fail .EINTR)).head? = some (.got []) := by
  unfold isoTpReadFromSocket
  by_cases negative : room < 0
  · refine iff_of_false ?_ (by omega)
    simp [negative]
  · rw [if_neg negative]
    have positive : room.toNat ≠ 0 := by omega
    simp only [Int.not_lt.mp negative, true_and]
    induction answers with
    | nil => simp [qtSafeRead]
    | cons answer answers ih =>
      cases answer with
      | fail e =>
        by_cases interrupted : e = .EINTR
        · simpa [qtSafeRead, interrupted, List.dropWhile_cons] using ih
        · simp [qtSafeRead, interrupted]
      | got bytes =>
        have answered : (qtSafeRead room.toNat (.got bytes :: answers)).ret = (bytes.take room.toNat).length := rfl
        have first : ((ReadAnswer.got bytes :: answers).dropWhile (· = .fail .EINTR)).head? = some (.got bytes) := by
          simp
        have nothing : (bytes.take room.toNat).length = 0 ↔ bytes = [] := by
          rw [List.length_eq_zero_iff, List.take_eq_nil_iff]
          exact or_iff_right positive
        rw [answered, first, Int.natCast_eq_zero, nothing]
        simp

theorem Protocol.readFromSocket_zero_iff (p : Protocol) {room : Int} (notFull : room ≠ 0)
    (answers : List ReadAnswer) : (p.readFromSocket room answers).ret = 0 ↔ p.NothingToRead room answers := by
  cases p with
  | raw options => exact rawRead_zero_iff _ room answers
  | isoTp fields => exact isoTpRead_zero_iff notFull answers

/-- A turn of `waitForReadyRead` begins with what had been read when the wait began. -/
structure StillUnread (s t : Socket) : Prop where
  buffer : t.buffer = s.buffer
  emitted : t.emittedReadyRead = s.emittedReadyRead
  grows : s.trace.length ≤ t.trace.length

theorem readyRead_begins {msecs : Int32} {k : Nat} {rounds : List WaitRound} {s t : Socket} {round : WaitRound}
    (begins : Begins (Socket.readyReadTurn Slot.idle msecs) k rounds s round t) : StillUnread s t := by
  refine begins.keeps (fun round t u again h => ?_) ⟨rfl, rfl, Nat.le_refl _⟩
  have turn := readyReadTurn_cases msecs round t
  rw [again] at turn
  cases turn with
  | again write _ _ adds kept _ =>
    have more := t.selected_grows msecs round
    exact ⟨kept.1.trans h.buffer, kept.2.trans h.emitted, Nat.le_trans (Nat.le_trans h.grows more) adds.grows⟩

/-- New bytes stand in the buffer, and `readyRead` told of them unless one of its slots is running. -/
def ReceivedNew (s t : Socket) : Prop :=
  (∃ data, data ≠ [] ∧ t.buffer = s.buffer ++ data) ∧
    (s.emittedReadyRead = false → .signal .readyRead ∈ s.added t)

theorem readReceived_new {answers : List ReadAnswer} {s : Socket} (nonempty : (s.readResult answers).data ≠ []) :
    ReceivedNew s (s.readReceived answers) := by
  obtain ⟨buffer, added⟩ := s.readReceived_eq answers
  refine ⟨⟨_, nonempty, buffer⟩, fun quiet => ?_⟩
  rw [added, if_pos ⟨quiet, nonempty⟩]
  simp

/-- `waitForReadyRead` comes back with true for new bytes only, exactly if no read that it is led to
comes back without a byte. -/
theorem ready_read_means_data_iff {msecs : Int32} {rounds : List WaitRound} {s : Socket}
    (connected : s.state ≠ .unconnectedState) :
    ((s.waitForReadyRead Slot.idle msecs rounds).1 = true →
        ReceivedNew s (s.waitForReadyRead Slot.idle msecs rounds).2) ↔
      ∀ k round t, Begins (Socket.readyReadTurn Slot.idle msecs) k rounds s round t →
        ∀ write, round.select = .ready true write → t.roomToRead ≠ 0 →
          ¬t.protocol.NothingToRead t.roomToRead (t.readAnswers round.read) := by
  have run : s.waitForReadyRead Slot.idle msecs rounds =
      loop (Socket.readyReadTurn Slot.idle msecs) (Socket.interrupted Slot.idle msecs) rounds s := by
    rw [Socket.waitForReadyRead, if_neg connected, s.waitForReadyReadLoop_eq]
  rw [run]
  constructor
  · intro truthful k round t begins write ready notFull nothing
    have unread := readyRead_begins begins
    have zero : ((t.selected msecs round).readResult round.read).ret = 0 :=
      (t.protocol.readFromSocket_zero_iff notFull _).mpr nothing
    have turn := readyReadTurn_cases msecs round t
    generalize taken : t.readyReadTurn Slot.idle msecs round = r at turn
    cases turn with
    | failed u failed => exact failed.1 true write ready
    | ended write' u ready' _ => cases ready.symm.trans ready'
    | again write' u ready' _ _ _ => cases ready.symm.trans ready'
    | read write' ok u ready' step =>
      cases step with
      | full _ none => exact notFull none
      | failed _ failed => omega
      | received _ stored =>
        rw [begins.ends taken] at truthful
        obtain ⟨⟨data, nonempty, appended⟩, _⟩ := truthful rfl
        obtain ⟨buffer, _⟩ := (t.selected msecs round).readReceived_eq round.read
        have none : ((t.selected msecs round).readResult round.read).data = [] :=
          List.length_eq_zero_iff.mp (by omega)
        have same : (t.selected msecs round).buffer = s.buffer := unread.buffer
        rw [appended, none, List.append_nil, same] at buffer
        exact nonempty (by simpa using buffer)
  · intro finds ok
    rcases @loop_ends _ _ _ (Socket.readyReadTurn Slot.idle msecs) (Socket.interrupted Slot.idle msecs) rounds s with
      ⟨k, round, t, result, u, begins, taken, eq⟩ | ⟨t, eq⟩
    · have unread := readyRead_begins begins
      have turn := readyReadTurn_cases msecs round t
      rw [eq] at ok ⊢
      rw [taken] at turn
      obtain rfl : result = true := ok
      cases turn with
      | read write ok u ready step =>
        have new : ReceivedNew (t.selected msecs round) u := by
          cases step with
          | received notFull stored =>
            refine readReceived_new fun none => finds k round t begins write ready notFull ?_
            refine (t.protocol.readFromSocket_zero_iff notFull _).mp (stored.trans ?_)
            rw [none]
            rfl
        obtain ⟨⟨data, nonempty, appended⟩, told⟩ := new
        refine ⟨⟨data, nonempty, ?_⟩, fun quiet => ?_⟩
        · rw [appended]
          exact congrArg (· ++ data) unread.buffer
        · have grows := Nat.le_trans unread.grows (t.selected_grows msecs round)
          exact Socket.mem_added grows (told (unread.emitted.trans quiet))
    · rw [eq] at ok
      cases ok

theorem ready_read_means_data_iff_frame :
    ((Socket.waitForReadyRead Slot.idle 10 [readableRound [.got (twoFrames.take 16)] 0 1]
          (.connected (.raw {}) 3)).1 = true →
        ReceivedNew (.connected (.raw {}) 3) (Socket.waitForReadyRead Slot.idle 10
          [readableRound [.got (twoFrames.take 16)] 0 1] (.connected (.raw {}) 3)).2) ↔
      ∀ k round t, Begins (Socket.readyReadTurn Slot.idle 10) k [readableRound [.got (twoFrames.take 16)] 0 1]
          (.connected (.raw {}) 3) round t → ∀ write, round.select = .ready true write → t.roomToRead ≠ 0 →
          ¬t.protocol.NothingToRead t.roomToRead (t.readAnswers round.read) :=
  ready_read_means_data_iff (by decide)

set_option maxRecDepth 8000 in
/-- The descriptor was reported readable and the read finds nothing. -/
theorem ready_read_means_data_fails :
    let s := Socket.connected (.raw {}) 3
    let r := s.waitForReadyRead Slot.idle 10 [readableRound [.fail .EAGAIN] 0 1]
    s.state = .connectedState ∧ r.1 = true ∧ r.2.buffer = s.buffer ∧ ¬ReceivedNew s r.2 := by
  intro s r
  have same : r.2.buffer = s.buffer := by decide
  refine ⟨by decide, by decide, same, ?_⟩
  rintro ⟨⟨data, nonempty, appended⟩, _⟩
  rw [same] at appended
  exact nonempty (by simpa using appended)

end CanSocket
