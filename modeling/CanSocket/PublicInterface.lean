import CanSocket.IsoTpAddresses

namespace CanSocket

/-- A call of the public interface of either class; `plain` are those both classes inherit. -/
inductive PublicCall
  | plain (c : Call)
  | clearError
  | disconnectFromInterface (answer : Option Errno)
  | setTxId (id : UInt32)
  | setRxId (id : UInt32)
  | connectToInterfaceWithIds (interfaceName : String) (txId rxId : UInt32) (mode : OpenMode) (env : ConnectEnv)

namespace Socket

/-- `clearError` hands a null string to the constructor of the error info, which finds a text for it. -/
def clearError (slot : Slot) (s : Socket) : Socket := s.setError slot (errorInfo .noError)

def disconnectFromInterface (slot : Slot) (answer : Option Errno) (s : Socket) : Socket := s.close slot answer

/-- The destructor. -/
def destroy (slot : Slot) (answer : Option Errno) (s : Socket) : Socket :=
  if s.state ≠ .unconnectedState then s.close slot answer else s

def execPublic (slot : Slot) (call : PublicCall) (s : Socket) : Socket :=
  match call with
  | .plain c => s.exec slot c
  | .clearError => s.clearError slot
  | .disconnectFromInterface answer => s.disconnectFromInterface slot answer
  | .setTxId id => (s.setTxId slot id).2
  | .setRxId id => (s.setRxId slot id).2
  | .connectToInterfaceWithIds interfaceName txId rxId mode env =>
    (s.connectToInterfaceWithIds slot interfaceName txId rxId mode env).2

end Socket

/-- Calls of the whole interface, the slots of every signal calling back to any depth. -/
abbrev PublicScript := CallRun.Script PublicCall Signal

def PublicScript.exec (script : PublicScript) (s : Socket) : Socket :=
  script.run (fun slot call s => s.execPublic slot call) Socket.now s

end CanSocket
