import CanSocket.RawRead
import CanSocket.RawWrite
import CanSocket.SocketBase

namespace CanSocket

/-- `qt_safe_read`: `::read` again as long as it is interrupted. -/
def qtSafeRead (maxSize : Nat) : List ReadAnswer → ReadResult
  | [] => ⟨-1, [], [⟨0, maxSize, .fail .EAGAIN⟩], some .EAGAIN⟩
  | .got bytes :: _ =>
    ⟨(bytes.take maxSize).length, bytes.take maxSize, [⟨0, maxSize, .got bytes⟩], none⟩
  | .fail e :: answers =>
    if e = .EINTR then
      let r := qtSafeRead maxSize answers
      { r with calls := ⟨0, maxSize, .fail e⟩ :: r.calls }
    else ⟨-1, [], [⟨0, maxSize, .fail e⟩], some e⟩

/-- `CanIsoTpSocketPrivate::readFromSocket`. A negative size becomes a `size_t`, and comes with the null pointer
`reserve` returned for it, which the kernel refuses if not the descriptor. -/
def isoTpReadFromSocket (maxSize : Int) (answers : List ReadAnswer) : ReadResult :=
  if maxSize < 0 then
    let e : Errno := if answers.head? = some (.fail .EBADF) then .EBADF else .EFAULT
    ⟨-1, [], [⟨0, (UInt64.ofInt maxSize).toNat, .fail e⟩], some e⟩
  else qtSafeRead maxSize.toNat answers

/-- `qt_safe_write`, which is the whole of `CanIsoTpSocketPrivate::writeToSocket`. -/
def isoTpWriteToSocket (data : List UInt8) : List WriteAnswer → WriteResult
  | [] => ⟨-1, [⟨0, data, .fail .EAGAIN⟩], [], some .EAGAIN⟩
  | .fail e :: answers =>
    if e = .EINTR then
      let r := isoTpWriteToSocket data answers
      { r with calls := ⟨0, data, .fail e⟩ :: r.calls }
    else ⟨-1, [⟨0, data, .fail e⟩], [], some e⟩
  | answer :: _ => ⟨(answer.taken data).length, [⟨0, data, answer⟩], [], none⟩

def Protocol.readFromSocket (p : Protocol) (maxSize : Int) (answers : List ReadAnswer) : ReadResult :=
  match p with
  | .raw options => rawReadFromSocket options.flexibleDataRateFrames maxSize answers
  | .isoTp _ => isoTpReadFromSocket maxSize answers

def Protocol.writeToSocket (p : Protocol) (data : List UInt8) (answers : List WriteAnswer) : WriteResult :=
  match p with
  | .raw options => rawWriteToSocket options.flexibleDataRateFrames data answers
  | .isoTp _ => isoTpWriteToSocket data answers

theorem qtSafeRead_spec (maxSize : Nat) (answers : List ReadAnswer) :
    ((qtSafeRead maxSize answers).ret = -1 ∨
      (qtSafeRead maxSize answers).ret = (qtSafeRead maxSize answers).data.length) ∧
      (qtSafeRead maxSize answers).data.length ≤ maxSize := by
  induction answers with
  | nil => exact ⟨Or.inl rfl, Nat.zero_le _⟩
  | cons answer answers ih =>
    cases answer with
    | got bytes => exact ⟨Or.inr rfl, List.length_take_le _ _⟩
    | fail e =>
      by_cases he : e = .EINTR
      · simpa [qtSafeRead, he] using ih
      · simp [qtSafeRead, he]

theorem Protocol.readFromSocket_spec (p : Protocol) (maxSize : Int) (answers : List ReadAnswer) :
    ((p.readFromSocket maxSize answers).ret = -1 ∨
      (p.readFromSocket maxSize answers).ret = (p.readFromSocket maxSize answers).data.length) ∧
      ((p.readFromSocket maxSize answers).data.length : Int) ≤ max maxSize 0 := by
  cases p with
  | raw options =>
    exact ⟨readLoop_ret _ _ _ _, readLoop_data_inside (Int.le_max_right _ _)⟩
  | isoTp fields =>
    unfold readFromSocket isoTpReadFromSocket
    by_cases negative : maxSize < 0
    · simp only [if_pos negative]
      exact ⟨Or.inl trivial, Int.le_max_right _ _⟩
    · obtain ⟨hr, hd⟩ := qtSafeRead_spec maxSize.toNat answers
      simp only [if_neg negative]
      exact ⟨hr, by omega⟩

theorem isoTpWriteToSocket_accepted {data : List UInt8} {answers : List WriteAnswer}
    (ok : 0 ≤ (isoTpWriteToSocket data answers).ret) :
    ∃ n : Nat, (isoTpWriteToSocket data answers).ret = n ∧ n ≤ data.length ∧
      acceptedBytes (isoTpWriteToSocket data answers).calls = data.take n := by
  induction answers with
  | nil => simp [isoTpWriteToSocket] at ok
  | cons answer answers ih =>
    cases answer with
    | fail e =>
      by_cases he : e = .EINTR
      · simp only [isoTpWriteToSocket, he, if_true] at ok ⊢
        simpa [WriteAnswer.taken] using ih ok
      · simp [isoTpWriteToSocket, he] at ok
    | all => exact ⟨data.length, rfl, Nat.le_refl _, by simp [isoTpWriteToSocket, WriteAnswer.taken]⟩
    | count n =>
      refine ⟨(data.take n).length, rfl, List.length_take_le' _ _, ?_⟩
      simp [isoTpWriteToSocket, WriteAnswer.taken, List.take_eq_take_iff]

theorem Protocol.writeToSocket_accepted {p : Protocol} {data : List UInt8}
    {answers : List WriteAnswer} (ok : 0 ≤ (p.writeToSocket data answers).ret) :
    ∃ n : Nat, (p.writeToSocket data answers).ret = n ∧ n ≤ data.length ∧
      acceptedBytes (p.writeToSocket data answers).calls = data.take n := by
  cases p with
  | raw options => exact rawWriteToSocket_accepted ok
  | isoTp fields => exact isoTpWriteToSocket_accepted ok

/-- What the surroundings decide about one sending step: how far the first contiguous block of
the ring buffer reaches, and the kernel's answers. -/
structure WriteEnv where
  block : Nat
  answers : List WriteAnswer

/-- One turn of a waiting loop: the clock at the `::select`, the answers of the kernel in
this turn, and the clock at the end of it. -/
structure WaitRound where
  elapsed : Int64
  select : SelectAnswer
  read : List ReadAnswer
  write : WriteEnv
  elapsedAfter : Int64

namespace Socket

/-- `QRingBuffer::nextDataBlockSize`: some front part of the bytes, not empty unless they are. -/
def nextDataBlockSize (env : WriteEnv) (s : Socket) : Nat :=
  min (max 1 env.block) s.writeBuffer.length

def nextDataBlock (env : WriteEnv) (s : Socket) : List UInt8 :=
  s.writeBuffer.take (s.nextDataBlockSize env)

def writeResult (env : WriteEnv) (s : Socket) : WriteResult :=
  s.protocol.writeToSocket (s.nextDataBlock env) (s.writeAnswers env.answers)

def sendBlock (env : WriteEnv) (s : Socket) : Socket :=
  let r := s.writeResult env
  ({ s with
    trace := s.trace ++ Event.writeToSocket s.emittedBytesWritten (s.nextDataBlock env)
      (s.writeAnswers env.answers) :: r.calls.map (Event.write s.descriptor) }).setErrno r.errno

/-- The accounting of `startAsyncWrite` after a successful `writeToSocket`. -/
def freeWritten (writtenBytes : Int) (s : Socket) : Socket :=
  ({ s with
    writeBuffer := s.writeBuffer.drop writtenBytes.toNat
    pendingBytesWritten := s.pendingBytesWritten + writtenBytes
    writeSequenceStarted := true }).log (.freed writtenBytes)

def startAsyncWrite (slot : Slot) (env : WriteEnv) (s : Socket) : Bool × Socket :=
  if s.writeBuffer = [] ∨ s.writeSequenceStarted then (true, s)
  else
    let writtenBytes := (s.writeResult env).ret
    let s := s.sendBlock env
    if writtenBytes < 0 then
      let info := getSystemError s.errno
      if info.errorCode ≠ .socketResourceError then
        (false, s.setError slot { info with errorCode := .writeError })
      else (false, s.setError slot info)
    else
      let s := s.freeWritten writtenBytes
      if !s.isWriteNotificationEnabled then (true, s.setWriteNotificationEnabled true) else (true, s)

/-- The first part of `completeAsyncWrite`: the amount is reported before it is reset. -/
def emitBytesWritten (slot : Slot) (s : Socket) : Socket :=
  if 0 < s.pendingBytesWritten ∧ !s.emittedBytesWritten then
    let s := ({ s with emittedBytesWritten := true }).emit slot (.bytesWritten s.pendingBytesWritten)
    { s with pendingBytesWritten := 0, emittedBytesWritten := false }
  else s

def completeAsyncWrite (slot : Slot) (env : WriteEnv) (s : Socket) : Bool × Socket :=
  let s := { s.emitBytesWritten slot with writeSequenceStarted := false }
  if s.writeBuffer = [] then (true, s.setWriteNotificationEnabled false)
  else s.startAsyncWrite slot env

/-- The state when `readFromSocket` has returned, its space still at full length. -/
def fillSpace (answers : List ReadAnswer) (bytesToRead : Int) (s : Socket) : Socket :=
  let r := s.protocol.readFromSocket bytesToRead (s.readAnswers answers)
  ({ s with
    buffer := reserve bytesToRead r.data s.buffer
    trace := s.trace ++ Event.readFromSocket bytesToRead (s.readAnswers answers) ::
      r.calls.map (Event.read s.descriptor bytesToRead) }).setErrno r.errno

/-- `readyRead` is not emitted again from inside one of its own slots. -/
def emitReadyRead (slot : Slot) (newBytes : Int) (s : Socket) : Socket :=
  if !s.emittedReadyRead ∧ 0 < newBytes then
    { ({ s with emittedReadyRead := true }).emit slot .readyRead with emittedReadyRead := false }
  else s

/-- The error branch of `readNotification`; the space is given back after the signal. -/
def failReceive (slot : Slot) (bytesToRead : Int) (s : Socket) : Socket :=
  let info := getSystemError s.errno
  let s :=
    if info.errorCode ≠ .socketResourceError then
      s.setError slot { info with errorCode := .readError }
    else (s.setReadNotificationEnabled false).setError slot info
  { s with buffer := chop bytesToRead s.buffer }

def disableIfFull (s : Socket) : Socket :=
  if s.readBufferMaxSize ≠ 0 ∧ (s.buffer.length : Int) = s.readBufferMaxSize then
    s.setReadNotificationEnabled false
  else s

/-- `readNotification` from `buffer.reserve(bytesToRead)` on. -/
def receive (slot : Slot) (answers : List ReadAnswer) (bytesToRead : Int) (s : Socket) : Bool × Socket :=
  let newBytes : Int := s.buffer.length
  let readBytes := (s.protocol.readFromSocket bytesToRead (s.readAnswers answers)).ret
  let s := s.fillSpace answers bytesToRead
  if readBytes < 0 then (false, s.failReceive slot bytesToRead)
  else if bytesToRead = 0 then
    (true, (s.setReadNotificationEnabled false).disableIfFull.emitReadyRead slot newBytes)
  else
    let s := { s with buffer := chop (bytesToRead - readBytes) s.buffer }
    (true, s.disableIfFull.emitReadyRead slot (s.buffer.length - newBytes))

def readNotification (slot : Slot) (answers : List ReadAnswer) (s : Socket) : Bool × Socket :=
  let bytesToRead := s.protocol.readChunkSize
  let room := s.readBufferMaxSize - s.buffer.length
  if s.readBufferMaxSize ≠ 0 ∧ room < bytesToRead then
    if room = 0 then (false, s.setReadNotificationEnabled false)
    else s.receive slot answers room
  else s.receive slot answers bytesToRead

/-- `timeoutValue`, at whose calls the 64-bit time is narrowed to an `int`; where the difference of two `int`s leaves
their range it is taken to wrap around. -/
def timeoutValue (msecs : Int32) (elapsed : Int64) : Int32 :=
  if msecs = -1 then msecs else max (msecs - elapsed.toInt32) 0

/-- `waitForReadOrWrite`: which of the two the descriptor is ready for, `none` on failure. -/
def waitForReadOrWrite (slot : Slot) (checkRead checkWrite : Bool) (msecs : Int32)
    (answer : SelectAnswer) (s : Socket) : Option (Bool × Bool) × Socket :=
  let s := s.log (.select s.descriptor checkRead checkWrite msecs answer)
  match answer with
  | .fail e => (none, s.setSystemError slot e)
  | .timeout => (none, s.setError slot (errorInfo .socketTimeoutError))
  | .ready read write => (some (read && checkRead, write && checkWrite), s)

/-- The loop of `waitForReadyRead`; after the last round given, `::select` is interrupted. -/
def waitForReadyReadLoop (slot : Slot) (msecs : Int32) : List WaitRound → Socket → Bool × Socket
  | [], s =>
    (false, (s.waitForReadOrWrite slot true (s.writeBuffer ≠ []) (timeoutValue msecs 0)
      (.fail .EINTR)).2)
  | round :: rounds, s =>
    match s.waitForReadOrWrite slot true (s.writeBuffer ≠ [])
      (timeoutValue msecs round.elapsed) round.select with
    | (none, s) => (false, s)
    | (some (readyToRead, readyToWrite), s) =>
      if readyToRead then s.readNotification slot round.read
      else
        let (written, s) := if readyToWrite then s.completeAsyncWrite slot round.write else (true, s)
        if !written then (false, s)
        else if msecs = -1 ∨ 0 < timeoutValue msecs round.elapsedAfter then
          waitForReadyReadLoop slot msecs rounds s
        else (false, s)

def waitForBytesWrittenLoop (slot : Slot) (msecs : Int32) : List WaitRound → Socket → Bool × Socket
  | [], s =>
    (false, (s.waitForReadOrWrite slot true (s.writeBuffer ≠ []) (timeoutValue msecs 0)
      (.fail .EINTR)).2)
  | round :: rounds, s =>
    match s.waitForReadOrWrite slot true (s.writeBuffer ≠ [])
      (timeoutValue msecs round.elapsed) round.select with
    | (none, s) => (false, s)
    | (some (readyToRead, readyToWrite), s) =>
      let (received, s) := if readyToRead then s.readNotification slot round.read else (true, s)
      if !received then (false, s)
      else if readyToWrite then s.completeAsyncWrite slot round.write
      else waitForBytesWrittenLoop slot msecs rounds s

/-- The public wait functions, which refuse an unconnected socket. -/
def waitForReadyRead (slot : Slot) (msecs : Int32) (rounds : List WaitRound) (s : Socket) : Bool × Socket :=
  if s.state = .unconnectedState then (false, s) else s.waitForReadyReadLoop slot msecs rounds

def waitForBytesWritten (slot : Slot) (msecs : Int32) (rounds : List WaitRound) (s : Socket) :
    Bool × Socket :=
  if s.state = .unconnectedState then (false, s)
  else if s.writeBuffer = [] ∧ s.pendingBytesWritten ≤ 0 then (false, s)
  else s.waitForBytesWrittenLoop slot msecs rounds

end Socket

end CanSocket
