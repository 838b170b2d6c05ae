import CanSocket.FrameStream

namespace CanSocket

inductive CanFrameFormat
  | standardFrameFormat
  | extendedFrameFormat
deriving DecidableEq, Repr

namespace CanFrameData

def setEffFlag (d : CanFrameData) (eff : Bool) : CanFrameData :=
  { d with id := if eff then d.id ||| canEffFlag else d.id &&& ~~~canEffFlag }

def toDataFrame (d : CanFrameData) : CanFrameData :=
  let d := { d with
    dlen := if d.dlen > 8 then 8 else d.dlen
    flags := 0
    res0 := res0FromCanMtu canMtu
    res1 := res1FromCanMtu canMtu
    data := resize canMaxDlen d.data }
  if d.rtrFlag then d.setRtrFlag false
  else if d.errFlag then d.setErrFlag false
  else d

def toFdFrame (d : CanFrameData) : CanFrameData :=
  let d := { d with
    dlen := if d.dlen > 64 then 64 else d.dlen
    res0 := res0FromCanMtu canfdMtu
    res1 := res1FromCanMtu canfdMtu
    data := resize canfdMaxDlen d.data }
  if d.rtrFlag then d.setRtrFlag false
  else if d.errFlag then d.setErrFlag false
  else d

def toRtrFrame (d : CanFrameData) : CanFrameData :=
  let d := { d with
    dlen := if d.dlen ≠ 0 then 0 else d.dlen
    flags := 0
    res0 := res0FromCanMtu canMtu
    res1 := res1FromCanMtu canMtu
    data := List.replicate canMaxDlen 48 }
  let d := if !d.rtrFlag then d.setRtrFlag true else d
  if d.errFlag then d.setErrFlag false else d

def setFrameType (d : CanFrameData) : CanFrameType → CanFrameData
  | .dataFrame => d.toDataFrame
  | .fdFrame => d.toFdFrame
  | .errorFrame => d.toErrorFrame
  | .rtrFrame => d.toRtrFrame
  | .unknownFrame => d.clear

/-- The constructors `CanFrame()` and `CanFrame(CanFrameType)`. -/
def construct : Option CanFrameType → CanFrameData
  | none => {}
  | some type => ({} : CanFrameData).setFrameType type

def maxDataLength (d : CanFrameData) : Int :=
  if d.isDataFrame then canMaxDlen
  else if d.isFdFrame then canfdMaxDlen
  else if d.isErrorFrame then canMaxDlen
  else if d.isRtrFrame then 0
  else -1

def setId (d : CanFrameData) (id : UInt32) : CanFrameData := { d with id := id }

def setFrameFormat (d : CanFrameData) (format : CanFrameFormat) : CanFrameData :=
  if format = .extendedFrameFormat ∧ d.effFlag = false then d.setEffFlag true
  else if format = .standardFrameFormat ∧ d.effFlag = true then d.setEffFlag false
  else d

def setDataLength (d : CanFrameData) (bytes : Int) : Bool × CanFrameData :=
  if !d.isValid then (false, d)
  else if d.dlen.toNat = bytes then (true, d)
  else if d.isRtrFrame || d.isErrorFrame then (false, d)
  else if 0 ≤ bytes ∧ bytes ≤ d.maxDataLength then (true, { d with dlen := UInt8.ofNat bytes.toNat })
  else (false, d)

def setFdFrameFlags (d : CanFrameData) (flags : UInt8) : Bool × CanFrameData :=
  if d.frameType ≠ .fdFrame then (false, d) else (true, { d with flags := flags })

/-- A write through the reference `operator[](i)` or the pointer `data()`, whose contract is that
`i` lies inside the vector. -/
def write (d : CanFrameData) (i : Nat) (c : UInt8) : CanFrameData := { d with data := d.data.set i c }

/-- How many bytes `setData` copies. -/
def copyLength (d : CanFrameData) (len : Int) : Int :=
  if len = -1 ∨ len > d.maxDataLength then d.maxDataLength else len

/-- `setData(data, len)`, where `source i` is the byte found at `data[i]`. -/
def setData (d : CanFrameData) (source : Nat → UInt8) (len : Int) : CanFrameData :=
  (List.range (d.copyLength len).toNat).foldl (fun d i => d.write i (source i)) d

/-- The bytes `QByteArray(frame.constData(), frame.dataLength())` copies for the debug output,
`none` when the copy leaves the data vector. -/
def shownData (d : CanFrameData) : Option (List UInt8) :=
  if d.dlen.toNat ≤ d.data.length then some (d.data.take d.dlen.toNat) else none

end CanFrameData

/-- One public operation on a frame object that may change it. -/
inductive FrameOp
  | setFrameType (type : CanFrameType)
  | toDataFrame
  | toFdFrame
  | toErrorFrame
  | toRtrFrame
  | clear
  | setId (id : UInt32)
  | setCanId (id : UInt32)
  | setFrameFormat (format : CanFrameFormat)
  | setDataLength (bytes : Int)
  | setFdFrameFlags (flags : UInt8)
  | setData (source : Nat → UInt8) (len : Int)
  | write (i : Nat) (c : UInt8)
  | read (order : Endian.ByteOrder) (stream : List UInt8)

/-- The payload after the operation, `none` when the decoder asks for a vector of negative size. -/
def FrameOp.exec (d : CanFrameData) : FrameOp → Option CanFrameData
  | .setFrameType type => some (d.setFrameType type)
  | .toDataFrame => some d.toDataFrame
  | .toFdFrame => some d.toFdFrame
  | .toErrorFrame => some d.toErrorFrame
  | .toRtrFrame => some d.toRtrFrame
  | .clear => some d.clear
  | .setId id => some (d.setId id)
  | .setCanId id => some (d.setCanId id)
  | .setFrameFormat format => some (d.setFrameFormat format)
  | .setDataLength bytes => some (d.setDataLength bytes).2
  | .setFdFrameFlags flags => some (d.setFdFrameFlags flags).2
  | .setData source len => some (d.setData source len)
  | .write i c => some (d.write i c)
  | .read order stream => (getFrame order d stream).map Prod.fst

/-- A frame built by a constructor and changed by the operations of a list. -/
def frameAfter (start : Option CanFrameType) (ops : List FrameOp) : Option CanFrameData :=
  ops.foldlM (fun d op => op.exec d) (CanFrameData.construct start)

end CanSocket
