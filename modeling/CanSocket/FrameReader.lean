import CanSocket.FrameBoundaries
import CanSocket.Link

namespace CanSocket

open Endian StreamCodec

namespace Socket

/-- What a `QDataStream` gets from `QIODevice::read`. -/
def readBytes (n : Nat) (s : Socket) : List UInt8 × Socket :=
  (if s.openMode.readOnly then s.buffer.take n else [], s.readDevice n)

def streamUInt32 (order : ByteOrder) (s : Socket) : UInt32 × Socket :=
  let (bytes, s) := s.readBytes 4
  (if bytes.length = 4 then UInt32.ofNat (order.decode bytes) else 0, s)

def streamUInt8 (s : Socket) : UInt8 × Socket :=
  let (bytes, s) := s.readBytes 1
  (bytes.headD 0, s)

def streamData : Nat → Socket → List UInt8 × Socket
  | 0, s => ([], s)
  | n + 1, s =>
    let (b, s) := s.streamUInt8
    let (data, s) := streamData n s
    (b :: data, s)

/-- `operator>>(QDataStream &, CanFrame &)` on a stream whose device is the socket. -/
def streamFrame (order : ByteOrder) (target : CanFrameData) (s : Socket) : Option (CanFrameData × Socket) :=
  let (id, s) := s.streamUInt32 order
  let (dlen, s) := s.streamUInt8
  let (flags, s) := s.streamUInt8
  let (res0, s) := s.streamUInt8
  let (res1, s) := s.streamUInt8
  let frame := { target with id := id, dlen := dlen, flags := flags, res0 := res0, res1 := res1 }
  let dataLength := dataLengthFromResBytes res0 res1
  if dataLength ≠ 0 then
    (qVectorFill dataLength 48).map fun vector =>
      let (data, s) := s.streamData vector.length
      ({ frame with data := data }, s)
  else some ((frame.setCanId unknownCanFrameError).toErrorFrame, s)

/-- `QIODevice::atEnd`. -/
def atEnd (s : Socket) : Bool := s.openMode == .notOpen || s.buffer.isEmpty

/-- The loop of `CanRawReader::handleReadyRead` and the frames it shows, `none` where the decoder does not
come back. -/
def showFrames (order : ByteOrder) : Nat → CanFrameData → Socket → Option (List CanFrameData × Socket)
  | fuel, readFrame, s =>
    if s.atEnd then some ([], s)
    else
      match fuel with
      | 0 => none
      | fuel + 1 => do
        let (readFrame, s) ← s.streamFrame order readFrame
        let (shown, s) ← showFrames order fuel readFrame s
        pure (readFrame :: shown, s)

/-- Every round of the loop takes a byte at least. -/
def handleReadyRead (order : ByteOrder) (s : Socket) : Option (List CanFrameData × Socket) :=
  s.showFrames order s.buffer.length {}

end Socket

/-- What the slots of `CanRawReader` do to the socket; the others only print. -/
def canRawReader (order : ByteOrder) : Slot
  | .readyRead, s => ((s.handleReadyRead order).map Prod.snd).getD s
  | _, s => s

/-- Between the two states the socket was only read from. -/
def ReadsOnly (s t : Socket) : Prop := ∃ sizes : List Nat, t = sizes.foldl (fun s n => s.readDevice n) s

namespace ReadsOnly

variable {s t u : Socket}

theorem refl (s : Socket) : ReadsOnly s s := ⟨[], rfl⟩

theorem read (n : Nat) (s : Socket) : ReadsOnly s (s.readDevice n) := ⟨[n], rfl⟩

theorem trans (first : ReadsOnly s t) (second : ReadsOnly t u) : ReadsOnly s u := by
  obtain ⟨sizes, rfl⟩ := first
  obtain ⟨more, rfl⟩ := second
  exact ⟨sizes ++ more, by rw [List.foldl_append]⟩

theorem keeps {P : Socket → Prop} (read : ∀ n s, P s → P (s.readDevice n)) (reads : ReadsOnly s t) (h : P s) : P t := by
  obtain ⟨sizes, rfl⟩ := reads
  induction sizes generalizing s with
  | nil => exact h
  | cons n sizes ih => exact ih (read n s h)

theorem linkView (reads : ReadsOnly s t) : t.linkView = s.linkView :=
  reads.keeps (P := fun t => t.linkView = s.linkView) (fun n t same => (t.linkView_readDevice n).trans same) rfl

theorem readable (reads : ReadsOnly s t) (readable : s.openMode.readOnly = true) : t.openMode.readOnly = true := by
  have mode : t.openMode = s.openMode := congrArg LinkView.openMode reads.linkView
  rwa [mode]

end ReadsOnly

/-- The socket gives what the bytes of its buffer give, and keeps what they leave. -/
structure Serves {α : Type} (s : Socket) (r : α × Socket) (plain : α × List UInt8) : Prop where
  value : r.1 = plain.1
  buffer : r.2.buffer = plain.2
  reads : ReadsOnly s r.2

theorem Serves.plain {α : Type} {s t : Socket} {a : α} {plain : α × List UInt8} (serves : Serves s (a, t) plain) :
    plain = (a, t.buffer) := by
  rw [show a = plain.1 from serves.value, show t.buffer = plain.2 from serves.buffer]

namespace Socket

variable {s : Socket}

theorem readDevice_buffer (readable : s.openMode.readOnly = true) (n : Nat) :
    (s.readDevice n).buffer = s.buffer.drop n := by
  have kept : ∀ t : Socket, t.readData.buffer = t.buffer := by
    intro t
    unfold readData
    split
    next => exact congrArg ReadView.buffer (t.readView_setRead true)
    next => rfl
  simp only [readDevice, readable, Bool.not_true, Bool.false_eq_true, if_false]
  split
  next => exact kept _
  next => rfl

theorem readBytes_serves (readable : s.openMode.readOnly = true) (n : Nat) :
    Serves s (s.readBytes n) (s.buffer.take n, s.buffer.drop n) :=
  ⟨by simp [readBytes, readable], readDevice_buffer readable n, .read n s⟩

theorem streamUInt32_serves (readable : s.openMode.readOnly = true) (order : ByteOrder) :
    Serves s (s.streamUInt32 order) (getUInt32 order s.buffer) := by
  have bytes := readBytes_serves readable 4
  rw [getUInt32]
  by_cases enough : 4 ≤ s.buffer.length
  · rw [if_pos enough]
    exact ⟨by simp [streamUInt32, bytes.value, Nat.min_eq_left enough], bytes.buffer, bytes.reads⟩
  · rw [if_neg enough]
    have few : min 4 s.buffer.length ≠ 4 := by omega
    refine ⟨by simp [streamUInt32, bytes.value, few], bytes.buffer.trans ?_, bytes.reads⟩
    exact List.drop_eq_nil_of_le (by omega)

theorem streamUInt8_serves (readable : s.openMode.readOnly = true) :
    Serves s s.streamUInt8 (getUInt8 s.buffer) := by
  have byte := readBytes_serves readable 1
  cases content : s.buffer with
  | nil => exact ⟨by simp [streamUInt8, byte.value, content, getUInt8], by simp [streamUInt8, byte.buffer, content, getUInt8],
      byte.reads⟩
  | cons b rest => exact ⟨by simp [streamUInt8, byte.value, content, getUInt8],
      by simp [streamUInt8, byte.buffer, content, getUInt8], byte.reads⟩

theorem streamData_serves (readable : s.openMode.readOnly = true) (n : Nat) :
    Serves s (s.streamData n) (getData n s.buffer) := by
  induction n generalizing s with
  | zero => exact ⟨rfl, rfl, .refl s⟩
  | succ n ih =>
    have byte := streamUInt8_serves readable
    have rest := ih (byte.reads.readable readable)
    rw [byte.buffer] at rest
    exact ⟨by simp only [streamData, getData, byte.value, rest.value], by simp only [streamData, getData, rest.buffer],
      byte.reads.trans rest.reads⟩

/-- Reading a frame from the socket is reading it from the buffer. -/
theorem streamFrame_of_getFrame (readable : s.openMode.readOnly = true) {order : ByteOrder} {target d : CanFrameData}
    {rest : List UInt8} (decoded : getFrame order target s.buffer = some (d, rest)) :
    ∃ t, s.streamFrame order target = some (d, t) ∧ t.buffer = rest ∧ ReadsOnly s t := by
  rcases word : s.streamUInt32 order with ⟨id, s₁⟩
  have first := streamUInt32_serves readable order
  rw [word] at first
  have open₁ := first.reads.readable readable
  rcases byte₂ : s₁.streamUInt8 with ⟨dlen, s₂⟩
  have second := streamUInt8_serves open₁
  rw [byte₂] at second
  have open₂ := second.reads.readable open₁
  rcases byte₃ : s₂.streamUInt8 with ⟨flags, s₃⟩
  have third := streamUInt8_serves open₂
  rw [byte₃] at third
  have open₃ := third.reads.readable open₂
  rcases byte₄ : s₃.streamUInt8 with ⟨res0, s₄⟩
  have fourth := streamUInt8_serves open₃
  rw [byte₄] at fourth
  have open₄ := fourth.reads.readable open₃
  rcases byte₅ : s₄.streamUInt8 with ⟨res1, s₅⟩
  have fifth := streamUInt8_serves open₄
  rw [byte₅] at fifth
  have open₅ := fifth.reads.readable open₄
  have header : ReadsOnly s s₅ :=
    (((first.reads.trans second.reads).trans third.reads).trans fourth.reads).trans fifth.reads
  simp only [getFrame, first.plain, second.plain, third.plain, fourth.plain, fifth.plain] at decoded
  simp only [streamFrame, word, byte₂, byte₃, byte₄, byte₅]
  split at decoded
  next known =>
    rw [if_pos known]
    obtain ⟨vector, filled, eq⟩ := Option.map_eq_some_iff.mp decoded
    have data := streamData_serves open₅ vector.length
    rcases bytes : s₅.streamData vector.length with ⟨content, t⟩
    rw [bytes] at data
    rw [data.plain] at eq
    obtain ⟨rfl, rfl⟩ := Prod.mk.inj eq
    exact ⟨t, by rw [filled, Option.map_some, bytes], rfl, header.trans data.reads⟩
  next unknown =>
    rw [if_neg unknown]
    obtain ⟨rfl, rfl⟩ := Prod.mk.inj (Option.some.inj decoded)
    exact ⟨s₅, rfl, rfl, header⟩

/-- The loop shows the frames the buffer decodes to, and leaves nothing in it. -/
theorem showFrames_of_decodeAll (readable : s.openMode.readOnly = true) {order : ByteOrder} {fuel : Nat}
    {target : CanFrameData} {frames : List CanFrameData}
    (decoded : decodeAll (getFrame order) fuel target s.buffer = some frames) :
    ∃ t, s.showFrames order fuel target = some (frames, t) ∧ t.buffer = [] ∧ ReadsOnly s t := by
  have isOpen : (s.openMode == .notOpen) = false := by
    rw [beq_eq_false_iff_ne]
    rintro closed
    rw [closed] at readable
    cases readable
  induction fuel generalizing s target frames with
  | zero =>
    cases content : s.buffer with
    | nil =>
      rw [content] at decoded
      cases decoded
      exact ⟨s, by simp [showFrames, atEnd, content], content, .refl s⟩
    | cons b bytes =>
      rw [content] at decoded
      cases decoded
  | succ fuel ih =>
    cases content : s.buffer with
    | nil =>
      rw [content] at decoded
      cases decoded
      exact ⟨s, by simp [showFrames, atEnd, content], content, .refl s⟩
    | cons b bytes =>
      rw [content] at decoded
      obtain ⟨⟨d, rest⟩, first, more⟩ := Option.bind_eq_some_iff.mp decoded
      obtain ⟨others, later, same⟩ := Option.bind_eq_some_iff.mp more
      obtain rfl : d :: others = frames := Option.some.inj same
      rw [← content] at first
      obtain ⟨u, read, left, reads⟩ := streamFrame_of_getFrame readable first
      rw [← left] at later
      have mode : u.openMode = s.openMode := congrArg LinkView.openMode reads.linkView
      obtain ⟨t, shown, empty, reads'⟩ := ih (reads.readable readable) later (by rw [mode]; exact isOpen)
      refine ⟨t, ?_, empty, reads.trans reads'⟩
      simp [showFrames, atEnd, isOpen, content, read, shown]

end Socket

/-- The kernel has handed out frames only, and none of them is lost. -/
structure FramesKept (options : CanRawOptions) (s : Socket) : Prop where
  receives : ReceivesAll options s
  clean : CleanReads options.flexibleDataRateFrames s.trace
  frames : ∀ frame ∈ kernelFrames s.trace, FrameOfMode options.flexibleDataRateFrames frame

/-- Between the calls the reader has taken every frame. -/
structure KeepsUp (options : CanRawOptions) (s : Socket) : Prop extends FramesKept options s where
  readable : s.openMode.readOnly = true
  outside : s.emittedReadyRead = false
  empty : s.buffer = []

section

variable {options : CanRawOptions} {s t : Socket}

theorem FramesKept.conserved (h : FramesKept options s) : userBytes s.trace ++ s.buffer = taggedBytes s.trace := by
  rcases h.receives.account with ⟨_, _, shows⟩ | ⟨dirty, _⟩
  · exact shows.conserved
  · exact absurd h.clean dirty

theorem FramesKept.same (h : FramesKept options s) (same : t.readView = s.readView) : FramesKept options t := by
  have trace : t.trace.filter Event.onReadSide = s.trace.filter Event.onReadSide := congrArg ReadView.trace same
  refine ⟨h.receives.same same, fun bytesToRead answers mem => ?_, ?_⟩
  · have kept : Event.readFromSocket bytesToRead answers ∈ t.trace.filter Event.onReadSide :=
      List.mem_filter.mpr ⟨mem, rfl⟩
    rw [trace] at kept
    exact h.clean _ _ (List.mem_filter.mp kept).1
  · rw [← kernelFrames_filter, trace, kernelFrames_filter]
    exact h.frames

theorem FramesKept.read (h : FramesKept options s) (maxSize : Nat) : FramesKept options (s.readDevice maxSize) := by
  have taken : FramesKept options
      (({ s with buffer := s.buffer.drop maxSize }).log (.userRead (s.buffer.take maxSize))) := by
    refine ⟨h.receives.taken maxSize, ?_, ?_⟩
    · simpa [Socket.log, CleanReads] using h.clean
    · simpa [Socket.log, kernelFrames, Event.handed] using h.frames
  unfold Socket.readDevice
  split
  next => exact h
  next =>
    dsimp only
    split
    next =>
      unfold Socket.readData
      split
      next => exact taken.same (Socket.readView_setRead true _)
      next => exact taken
    next => exact taken

theorem KeepsUp.same (h : KeepsUp options s) (reads : t.readView = s.readView) (link : t.linkView = s.linkView) :
    KeepsUp options t where
  toFramesKept := h.toFramesKept.same reads
  readable := (congrArg (fun v : LinkView => v.openMode.readOnly) link).trans h.readable
  outside := (congrArg LinkView.emittedReadyRead link).trans h.outside
  empty := (congrArg ReadView.buffer reads).trans h.empty

/-- What is read between two notifications is nothing. -/
theorem KeepsUp.read (h : KeepsUp options s) (maxSize : Nat) : KeepsUp options (s.readDevice maxSize) where
  toFramesKept := h.toFramesKept.read maxSize
  readable := (congrArg (fun v : LinkView => v.openMode.readOnly) (s.linkView_readDevice maxSize)).trans h.readable
  outside := (congrArg LinkView.emittedReadyRead (s.linkView_readDevice maxSize)).trans h.outside
  empty := by rw [Socket.readDevice_buffer h.readable, h.empty, List.drop_nil]

/-- Called with whole frames in the buffer, the reader takes them all. -/
theorem FramesKept.reader (order : ByteOrder) (h : FramesKept options s) (readable : s.openMode.readOnly = true)
    {frames : List (List UInt8)} (whole : s.buffer = frames.flatMap tagFrame)
    (ofMode : ∀ frame ∈ frames, FrameOfMode options.flexibleDataRateFrames frame) :
    FramesKept options (canRawReader order .readyRead s) ∧ (canRawReader order .readyRead s).buffer = [] ∧
      (canRawReader order .readyRead s).linkView = s.linkView := by
  have decoded := decodeAll_tagged order ofMode {}
  rw [← whole] at decoded
  obtain ⟨t, shown, empty, reads⟩ := Socket.showFrames_of_decodeAll readable decoded
  have called : canRawReader order .readyRead s = t := by
    simp [canRawReader, Socket.handleReadyRead, shown]
  rw [called]
  exact ⟨reads.keeps (fun n t h => h.read n) h, empty, reads.linkView⟩

theorem FramesKept.filled (h : FramesKept options s) {answers : List ReadAnswer}
    (bus : ∀ a ∈ answers, a.Undisturbed options.flexibleDataRateFrames) (bytesToRead : Int) {buffer : List UInt8}
    (receives : ReceivesAll options { s.fillSpace answers bytesToRead with buffer := buffer }) :
    FramesKept options { s.fillSpace answers bytesToRead with buffer := buffer } where
  receives := receives
  clean := (fillSpace_clean answers bytesToRead s).mpr ⟨h.clean, readBatchClean_undisturbed bus bytesToRead s⟩
  frames frame mem := by
    have all := fillSpace_frames answers bytesToRead s
    rw [h.receives.protocol] at all
    dsimp only at mem
    rw [all] at mem
    rcases List.mem_append.mp mem with before | now
    · exact h.frames frame before
    · exact handedFrames_ofMode (readAnswers_onBus (fun a ha => (bus a ha).1) s) now

/-- A batch that is stored is stored before any slot runs; the signal comes last. -/
theorem Socket.receive_stored (answers : List ReadAnswer) (bytesToRead : Int) (s : Socket)
    (ok : 0 ≤ (s.protocol.readFromSocket bytesToRead (s.readAnswers answers)).ret) :
    ∃ (t : Socket) (newBytes : Int), t.readView = { s.fillSpace answers bytesToRead with
        buffer := s.buffer ++ (s.protocol.readFromSocket bytesToRead (s.readAnswers answers)).data }.readView ∧
      t.linkView = s.linkView ∧ (s.buffer = [] → newBytes = t.buffer.length) ∧
      ∀ slot, (s.receive slot answers bytesToRead).2 = t.emitReadyRead slot newBytes := by
  obtain ⟨hret, inside⟩ := s.protocol.readFromSocket_spec bytesToRead (s.readAnswers answers)
  have stored : (s.protocol.readFromSocket bytesToRead (s.readAnswers answers)).ret =
      (s.protocol.readFromSocket bytesToRead (s.readAnswers answers)).data.length := by omega
  have filled := linkView_of_downView (s.downView_fillSpace answers bytesToRead)
  by_cases none : bytesToRead = 0
  · have nothing : (s.protocol.readFromSocket bytesToRead (s.readAnswers answers)).data = [] := by
      rw [none] at inside ⊢
      exact List.length_eq_zero_iff.mp (by omega)
    have view : (((s.fillSpace answers bytesToRead).setReadNotificationEnabled false).disableIfFull).readView =
        { s.fillSpace answers bytesToRead with
          buffer := s.buffer ++ (s.protocol.readFromSocket bytesToRead (s.readAnswers answers)).data }.readView := by
      rw [readView_disableIfFull, readView_setRead]
      simp [readView, fillSpace, setErrno, reserve, none]
    refine ⟨_, s.buffer.length, view, ?_, fun empty => ?_, fun slot => ?_⟩
    · rw [linkView_of_downView (downView_disableIfFull _), linkView_setRead, filled]
    · have buffer := congrArg ReadView.buffer view
      simp only [readView] at buffer
      rw [buffer, nothing, empty]
      rfl
    · simp only [receive, if_neg (Int.not_lt.mpr ok), if_pos none]
  · let chopped : Socket := { s.fillSpace answers bytesToRead with
      buffer := chop (bytesToRead - (s.protocol.readFromSocket bytesToRead (s.readAnswers answers)).ret)
        (s.fillSpace answers bytesToRead).buffer }
    have kept : chopped.buffer =
        s.buffer ++ (s.protocol.readFromSocket bytesToRead (s.readAnswers answers)).data := by
      dsimp only [chopped]
      rw [stored]
      exact @chop_reserve_rest bytesToRead _ s.buffer inside
    refine ⟨chopped.disableIfFull, chopped.buffer.length - s.buffer.length, ?_, ?_, fun empty => ?_, fun slot => ?_⟩
    · rw [readView_disableIfFull]
      exact congrArg (fun buffer => { s.fillSpace answers bytesToRead with buffer := buffer }.readView) kept
    · rw [linkView_of_downView (downView_disableIfFull _)]
      exact filled
    · have buffer : chopped.disableIfFull.buffer = chopped.buffer :=
        congrArg ReadView.buffer (readView_disableIfFull chopped)
      rw [buffer, empty]
      simp
    · simp only [receive, if_neg (Int.not_lt.mpr ok), if_neg none]
      rfl

/-- The buffer holds the frames of the batch and nothing else. -/
theorem KeepsUp.newFrames (h : KeepsUp options s) (kept : FramesKept options t) (answers : List ReadAnswer)
    (bytesToRead : Int) {buffer : List UInt8}
    (view : t.readView = { s.fillSpace answers bytesToRead with buffer := buffer }.readView) :
    ∃ frames : List (List UInt8), t.buffer = frames.flatMap tagFrame ∧
      ∀ frame ∈ frames, FrameOfMode options.flexibleDataRateFrames frame := by
  have trace : t.trace.filter Event.onReadSide = (s.fillSpace answers bytesToRead).trace.filter Event.onReadSide :=
    congrArg ReadView.trace view
  have user : userBytes t.trace = userBytes s.trace := by
    rw [← userBytes_filter, trace, userBytes_filter, fillSpace_user]
  have handed : kernelFrames t.trace = kernelFrames s.trace ++
      handedFrames (s.protocol.readFromSocket bytesToRead (s.readAnswers answers)).calls := by
    rw [← kernelFrames_filter, trace, kernelFrames_filter, fillSpace_frames]
  refine ⟨_, ?_, fun frame mem => kept.frames frame (by rw [handed]; exact List.mem_append_right _ mem)⟩
  have before := h.conserved
  have after := kept.conserved
  rw [h.empty, List.append_nil] at before
  rw [user, taggedBytes, handed, List.flatMap_append, before] at after
  exact List.append_cancel_left after

/-- A notification tells the reader of its frames before it returns. -/
theorem KeepsUp.receive (order : ByteOrder) (h : KeepsUp options s) {answers : List ReadAnswer}
    (bus : ∀ a ∈ answers, a.Undisturbed options.flexibleDataRateFrames) (bytesToRead : Int) :
    KeepsUp options (s.receive (canRawReader order) answers bytesToRead).2 := by
  have onBus : ∀ a ∈ answers, a.OnBus options.flexibleDataRateFrames := fun a ha => (bus a ha).1
  by_cases failed : (s.protocol.readFromSocket bytesToRead (s.readAnswers answers)).ret < 0
  · -- nothing but an error is told
    have idle : (s.receive (canRawReader order) answers bytesToRead).2 = (s.receive Slot.idle answers bytesToRead).2 := by
      unfold Socket.receive
      dsimp only
      rw [if_pos failed, if_pos failed]
      rfl
    have link := Socket.linkView_of_downView (s.downView_receive answers bytesToRead)
    rw [idle]
    have quiet : ∀ e t, Slot.idle (.error e) t = t := fun _ _ => rfl
    rcases s.receive_cases quiet answers bytesToRead with ⟨_, view⟩ | ⟨ok, _⟩
    · have kept := h.toFramesKept.filled bus bytesToRead (h.receives.failed onBus failed)
      exact ⟨kept.same view, (congrArg (fun v : LinkView => v.openMode.readOnly) link).trans h.readable,
        (congrArg LinkView.emittedReadyRead link).trans h.outside, (congrArg ReadView.buffer view).trans h.empty⟩
    · omega
  · have ok := Int.not_lt.mp failed
    obtain ⟨t, newBytes, view, link, all, tells⟩ := s.receive_stored answers bytesToRead ok
    have kept := (h.toFramesKept.filled bus bytesToRead (h.receives.received onBus ok)).same view
    have readable : t.openMode.readOnly = true := (congrArg (fun v : LinkView => v.openMode.readOnly) link).trans h.readable
    have outside : t.emittedReadyRead = false := (congrArg LinkView.emittedReadyRead link).trans h.outside
    have size := all h.empty
    rw [tells (canRawReader order)]
    unfold Socket.emitReadyRead
    by_cases none : t.buffer = []
    · have silent : ¬((!t.emittedReadyRead) = true ∧ 0 < newBytes) := by simp [size, none]
      rw [if_neg silent]
      exact ⟨kept, readable, outside, none⟩
    · have told : (!t.emittedReadyRead) = true ∧ 0 < newBytes := by
        simp [outside, size, List.length_pos_iff.mpr none]
      rw [if_pos told]
      let u := ({ t with emittedReadyRead := true }).log (.signal .readyRead)
      have marked : FramesKept options u :=
        kept.same (Socket.readView_log (e := .signal .readyRead) rfl { t with emittedReadyRead := true })
      obtain ⟨frames, whole, ofMode⟩ := h.newFrames kept answers bytesToRead view
      obtain ⟨after, taken, same⟩ := marked.reader order (s := u) readable whole ofMode
      have still : (canRawReader order .readyRead u).openMode.readOnly = true :=
        (congrArg (fun v : LinkView => v.openMode.readOnly) same).trans readable
      exact ⟨after.same rfl, still, rfl, taken⟩

theorem Socket.readView_completeAsyncWrite (env : WriteEnv) (s : Socket) :
    (s.completeAsyncWrite Slot.idle env).2.readView = s.readView := by
  have told : (s.emitBytesWritten Slot.idle).readView = s.readView := by
    unfold emitBytesWritten
    split
    next => exact readView_log (e := .signal (.bytesWritten s.pendingBytesWritten)) rfl { s with emittedBytesWritten := true }
    next => rfl
  unfold completeAsyncWrite
  dsimp only
  split
  next => exact (readView_setWrite false _).trans told
  next => exact (readView_startAsyncWrite (fun _ _ => rfl) env _).trans told

/-- Every part of a call leaves the reader with nothing to read. -/
theorem keepsUp_parts (options : CanRawOptions) (order : ByteOrder) :
    PartsKeep (canRawReader order) (ReadAnswer.Undisturbed options.flexibleDataRateFrames)
      fun s t => KeepsUp options s → KeepsUp options t where
  refl _ h := h
  trans first second h := second (first h)
  select checkRead checkWrite msecs answer s h := by
    have idle : (s.waitForReadOrWrite (canRawReader order) checkRead checkWrite msecs answer).2 =
        (s.waitForReadOrWrite Slot.idle checkRead checkWrite msecs answer).2 := rfl
    rw [idle]
    exact h.same (s.readView_waitForReadOrWrite (fun _ _ => rfl) _ _ _ answer)
      (Socket.linkView_of_downView (s.downView_waitForReadOrWrite _ _ _ answer))
  write data s h := by
    refine h.same ?_ (s.linkView_writeDevice data)
    unfold Socket.writeDevice
    split
    next => rfl
    next => exact s.readView_writeData data
  read maxSize s h := h.read maxSize
  limit size s h := by
    refine h.same ?_ (Socket.linkView_of_downView (s.downView_setReadBufferSize size))
    unfold Socket.setReadBufferSize
    split <;> rfl
  receive answers bus s h := by
    unfold Socket.readNotification
    dsimp only
    split
    next =>
      split
      next => exact h.same (s.readView_setRead false) (s.linkView_setRead false)
      next => exact h.receive order bus _
    next => exact h.receive order bus _
  send env s h := by
    have idle : (s.completeAsyncWrite (canRawReader order) env).2 = (s.completeAsyncWrite Slot.idle env).2 := rfl
    rw [idle]
    exact h.same (s.readView_completeAsyncWrite env) (s.linkView_completeAsyncWrite env)

end

/-- The example's reader shows every frame the kernel hands out exactly once and in order, however the frames come and
whatever else is called on the connection: after each call it has read them all, and what it reads decodes to one frame
for each of the kernel's, with all its bytes. -/
theorem reader_shows_all (order : ByteOrder) {options : CanRawOptions} {s : Socket} (start : JustConnected s)
    (raw : s.protocol = .raw options) (readable : s.openMode.readOnly = true) {calls : List Call}
    (on : ∀ c ∈ calls, c.Reads (ReadAnswer.Undisturbed options.flexibleDataRateFrames)) :
    let t := CallRun.run (Socket.exec (canRawReader order)) calls s
    t.buffer = [] ∧ userBytes t.trace = (kernelFrames t.trace).flatMap tagFrame ∧
      decodeAll (getFrame order) (userBytes t.trace).length {} (userBytes t.trace) =
        some ((kernelFrames t.trace).map (frameOf order)) := by
  intro t
  have begun : KeepsUp options s := by
    refine ⟨⟨start.receivesAll raw, ?_, ?_⟩, readable, start.emittedReadyRead, start.buffer⟩
    · simp [start.trace, CleanReads]
    · simp [start.trace, kernelFrames]
  have reached : KeepsUp options t :=
    CallRun.run_invariant
      (fun _ u (on : Call.Reads (ReadAnswer.Undisturbed options.flexibleDataRateFrames) _) h =>
        (keepsUp_parts options order).exec on.1 on.2 u h)
      (CallRun.guarded_of_all on s) begun
  have whole : userBytes t.trace = (kernelFrames t.trace).flatMap tagFrame := by
    have conserved := reached.conserved
    rwa [reached.empty, List.append_nil] at conserved
  refine ⟨reached.empty, whole, ?_⟩
  rw [whole]
  exact decodeAll_tagged order reached.frames {}

theorem reader_shows_all_twoFrames :
    let t := CallRun.run (Socket.exec (canRawReader .littleEndian))
      [.readNotification [.got (twoFrames.take 16), .got (twoFrames.drop 16), .fail .EAGAIN], .read 20]
      (.connected (.raw {}) 3)
    t.buffer = [] ∧ userBytes t.trace = (kernelFrames t.trace).flatMap tagFrame ∧
      decodeAll (getFrame .littleEndian) (userBytes t.trace).length {} (userBytes t.trace) =
        some ((kernelFrames t.trace).map (frameOf .littleEndian)) :=
  reader_shows_all .littleEndian justConnected_raw rfl rfl (by
    simp [Call.Reads, Call.OnConnection, Call.readAnswers, ReadAnswer.Undisturbed, ReadAnswer.OnBus, twoFrames, canMtu])

end CanSocket
