import CanSocket.ByteOrder
import CanSocket.StreamCodec
import CanSocket.WordMasks
import CanSocket.Channel
import CanSocket.Medium
import CanSocket.CallRun
import CanSocket.Ledger
import CanSocket.Mirror
import CanSocket.History
import CanSocket.Chronicle
import CanSocket.Dialogue
import CanSocket.ObjectHeap
import CanSocket.SharedPayload
import CanSocket.CopyOrigins
import CanSocket.OwnedCells
import CanSocket.FrameData
import CanSocket.FrameStream
import CanSocket.FrameOperations
import CanSocket.FrameConsistency
import CanSocket.FrameObjects
import CanSocket.Kernel
import CanSocket.RawRead
import CanSocket.RawWrite
import CanSocket.WriteBounds
import CanSocket.EncodedWrite
import CanSocket.BusFrames
import CanSocket.SocketTypes
import CanSocket.OptionObjects
import CanSocket.SocketBase
import CanSocket.SocketTransfer
import CanSocket.SocketConnect
import CanSocket.PublicCalls
import CanSocket.Connection
import CanSocket.WriteSide
import CanSocket.SendOnce
import CanSocket.BytesWrittenAccount
import CanSocket.WriteWakeup
import CanSocket.ReadSide
import CanSocket.ReceiveAll
import CanSocket.FrameBoundaries
import CanSocket.ReadWakeup
import CanSocket.Link
import CanSocket.Teardown
import CanSocket.OptionStore
import CanSocket.OptionReplay
import CanSocket.OptionCells
import CanSocket.ConnectDialogue
import CanSocket.OptionsInForce
import CanSocket.RawOptions
import CanSocket.SetThenGet
import CanSocket.IsoTpOptions
import CanSocket.Configuration
import CanSocket.IsoTpAddresses
import CanSocket.WholeMessages
import CanSocket.MessageBoundaries
import CanSocket.LiveDescriptors
import CanSocket.DescriptorUse
import CanSocket.FrameConversions
import CanSocket.FrameSetters
import CanSocket.MalformedFrames
import CanSocket.TransferSteps
import CanSocket.WriteDrain
import CanSocket.ReadLimits
import CanSocket.TurnLoop
import CanSocket.WaitLoops
import CanSocket.WaitDeadline
import CanSocket.WaitReadyRead
import CanSocket.WaitBytesWritten
import CanSocket.KernelFailures
import CanSocket.WouldBlock
import CanSocket.ErrorCauses
import CanSocket.PublicInterface
import CanSocket.EmissionPoints
import CanSocket.Moves
import CanSocket.ChangeSignals
import CanSocket.StateOrder
import CanSocket.Sessions
import CanSocket.TransferSignals
import CanSocket.ReadSpaces
import CanSocket.BusPackets
import CanSocket.BusNetwork
import CanSocket.SharedValues
import CanSocket.FrameValues
import CanSocket.FilterArrays
import CanSocket.DecodedStreams
import CanSocket.FrameReader
import CanSocket.MessageReader
import CanSocket.ErrorClasses
