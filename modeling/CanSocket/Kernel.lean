import CanSocket.FrameData

namespace CanSocket

/-- The errno values the library names or relies on, and any other one. -/
inductive Errno
  | EAGAIN
  | EINTR
  | EBADF
  | EFAULT
  | ENOBUFS
  | ENOMEM
  | EMFILE
  | ENFILE
  | ENODEV
  | EACCES
  | EAFNOSUPPORT
  | EINVAL
  | EPROTONOSUPPORT
  | other (code : Nat)
deriving DecidableEq, Repr

/-- What the kernel answers to `::read`; no byte at all is the return value 0. -/
inductive ReadAnswer
  | got (bytes : List UInt8)
  | fail (errno : Errno)
deriving DecidableEq, Repr

/-- What the kernel answers to `::write`: all bytes, the first `n` of them, or a failure. -/
inductive WriteAnswer
  | all
  | count (n : Nat)
  | fail (errno : Errno)
deriving DecidableEq, Repr

/-- One `::read`: where in the space it was given it stores, how many bytes it asks for. -/
structure ReadCall where
  offset : Nat
  length : Nat
  answer : ReadAnswer
deriving DecidableEq, Repr

/-- One `::write`: where in the block the bytes stand, and the bytes. -/
structure WriteCall where
  offset : Nat
  bytes : List UInt8
  answer : WriteAnswer
deriving DecidableEq, Repr

/-- What `readFromSocket` leaves behind: its result, the bytes stored from the start of
the space, the kernel calls made, and the errno of the last one that failed. -/
structure ReadResult where
  ret : Int
  data : List UInt8
  calls : List ReadCall
  errno : Option Errno
deriving DecidableEq, Repr

/-- The same for `writeToSocket`; `looked` are the offsets of the block it read itself. -/
structure WriteResult where
  ret : Int
  calls : List WriteCall
  looked : List Nat
  errno : Option Errno
deriving DecidableEq, Repr

/-- The bytes of one `::read` that reached the library, none when it failed or was empty. -/
def ReadCall.handed (call : ReadCall) : Option (List UInt8) :=
  match call.answer with
  | .got bytes => if bytes.take call.length = [] then none else some (bytes.take call.length)
  | .fail _ => none

def handedFrames (calls : List ReadCall) : List (List UInt8) := calls.filterMap ReadCall.handed

def WriteAnswer.taken (answer : WriteAnswer) (bytes : List UInt8) : List UInt8 :=
  match answer with
  | .all => bytes
  | .count n => bytes.take n
  | .fail _ => []

def acceptedBytes (calls : List WriteCall) : List UInt8 :=
  calls.flatMap fun call => call.answer.taken call.bytes

@[simp] theorem handedFrames_nil : handedFrames [] = [] := rfl

@[simp] theorem acceptedBytes_nil : acceptedBytes [] = [] := rfl

@[simp] theorem acceptedBytes_cons (call : WriteCall) (calls : List WriteCall) :
    acceptedBytes (call :: calls) = call.answer.taken call.bytes ++ acceptedBytes calls := rfl

theorem WriteAnswer.taken_prefix (answer : WriteAnswer) (bytes : List UInt8) :
    answer.taken bytes = bytes.take (answer.taken bytes).length := by
  cases answer with
  | all => simp [taken]
  | count n => simp [taken, List.take_eq_take_iff]
  | fail e => simp [taken]

/-- A value of an enumeration whose enumerators stand for 0, 1 and -1 that none of them names; a conversion from an
`int` can bring it. -/
structure UnnamedValue where
  value : Int32
  unnamed : value ≠ 0 ∧ value ≠ 1 ∧ value ≠ -1
deriving DecidableEq, Repr

inductive FlexibleDataRateFrames
  | disabledFdFrames
  | enabledFdFrames
  | undefinedFdFrames
  | other (value : UnnamedValue)
deriving DecidableEq, Repr

/-- The size both transfer loops of a raw socket go by. -/
def frameSize (fd : FlexibleDataRateFrames) : Nat :=
  if fd = .enabledFdFrames then canfdMtu else canMtu

theorem canMtu_le_frameSize (fd : FlexibleDataRateFrames) : canMtu ≤ frameSize fd := by
  unfold frameSize
  split <;> decide

theorem frameSize_pos (fd : FlexibleDataRateFrames) : 0 < frameSize fd := by
  unfold frameSize
  split <;> decide

end CanSocket
