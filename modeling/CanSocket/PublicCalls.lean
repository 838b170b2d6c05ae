import CanSocket.CallRun
import CanSocket.SocketConnect

namespace CanSocket

/-- A call of the public interface, or of the event loop through a notifier, with everything
the kernel answers while it lasts. -/
inductive Call
  | connectToInterface (interfaceName : String) (mode : OpenMode) (env : ConnectEnv)
  | close (answer : Option Errno)
  | write (data : List UInt8)
  | read (maxSize : Nat)
  | flush (env : WriteEnv)
  | waitForReadyRead (msecs : Int32) (rounds : List WaitRound)
  | waitForBytesWritten (msecs : Int32) (rounds : List WaitRound)
  | setReadBufferSize (size : Int)
  | setSocketOption (option : SocketOption) (answer : Option Errno)
  | readNotification (answers : List ReadAnswer)
  | writeNotification (env : WriteEnv)

namespace Socket

def readData (s : Socket) : Socket :=
  if s.readBufferMaxSize ≠ 0 ∧ !s.isReadNotificationEnabled then s.setReadNotificationEnabled true
  else s

/-- `QIODevice::read`: the buffer first, and `readData` when that is used up or does not hold what is asked for. -/
def readDevice (maxSize : Nat) (s : Socket) : Socket :=
  if !s.openMode.readOnly then s
  else
    let t := ({ s with buffer := s.buffer.drop maxSize }).log (.userRead (s.buffer.take maxSize))
    if 0 < maxSize ∧ s.buffer.length ≤ maxSize then t.readData else t

/-- `QIODevice::write`. -/
def writeDevice (data : List UInt8) (s : Socket) : Socket :=
  if !s.openMode.writeOnly then s else s.writeData data

def setReadBufferSize (size : Int) (s : Socket) : Socket :=
  if s.readBufferMaxSize = size then s else { s with readBufferMaxSize := size }

/-- A write notification reaches an enabled notifier only; `readNotification` is also called
from the wait functions, whatever the notifier. -/
def exec (slot : Slot) (call : Call) (s : Socket) : Socket :=
  match call with
  | .connectToInterface interfaceName mode env => (s.connectToInterface slot interfaceName mode env).2
  | .close answer => s.close slot answer
  | .write data => s.writeDevice data
  | .read maxSize => s.readDevice maxSize
  | .flush env => (s.completeAsyncWrite slot env).2
  | .waitForReadyRead msecs rounds => (s.waitForReadyRead slot msecs rounds).2
  | .waitForBytesWritten msecs rounds => (s.waitForBytesWritten slot msecs rounds).2
  | .setReadBufferSize size => s.setReadBufferSize size
  | .setSocketOption option answer => (s.setSocketOption slot option answer).2
  | .readNotification answers => (s.readNotification slot answers).2
  | .writeNotification env =>
    if s.isWriteNotificationEnabled then (s.completeAsyncWrite slot env).2 else s

def step (call : Call) (s : Socket) : Socket := s.exec Slot.idle call

/-- The moment of an emission is the length of the trace. -/
def now (s : Socket) : Nat := s.trace.length

end Socket

abbrev Script := CallRun.Script Call Signal

def Script.exec (script : Script) (s : Socket) : Socket :=
  script.run (fun slot call s => s.exec slot call) Socket.now s

/-- The state a successful `connectToInterface` ends in, the trace counting from there. -/
structure JustConnected (s : Socket) : Prop where
  state : s.state = .connectedState
  buffer : s.buffer = []
  writeBuffer : s.writeBuffer = []
  readNotifier : s.isReadNotificationEnabled = s.openMode.readOnly
  writeNotifier : s.writeNotifier = none
  emittedReadyRead : s.emittedReadyRead = false
  emittedBytesWritten : s.emittedBytesWritten = false
  pendingBytesWritten : s.pendingBytesWritten = 0
  writeSequenceStarted : s.writeSequenceStarted = false
  trace : s.trace = []

/-- The calls that neither open nor close the connection nor set an option. -/
def Call.OnConnection : Call → Prop
  | .connectToInterface .. => False
  | .close _ => False
  | .setSocketOption .. => False
  | _ => True

def Socket.create (protocol : Protocol) : Socket := { protocol := protocol }

def ConnectEnv.granting (descriptor : Nat) : ConnectEnv := { socket := .ok descriptor }

def Socket.connected (protocol : Protocol) (descriptor : Nat) : Socket :=
  { (Socket.create protocol).step (.connectToInterface "vcan0" .readWrite (.granting descriptor)) with
    trace := [] }

theorem justConnected_raw : JustConnected (Socket.connected (.raw {}) 3) := by
  constructor <;> decide

/-- Two data frames as `operator<<` writes them on a little-endian machine. -/
def twoFrames : List UInt8 :=
  [0x23, 1, 0, 0, 8, 0, 8, 16, 1, 2, 3, 4, 5, 6, 7, 8] ++
    [0x24, 1, 0, 0, 8, 0, 8, 16, 8, 7, 6, 5, 4, 3, 2, 1]

end CanSocket
