import DaqBus.Block.Basic
import DaqBus.Record.Basic
import DaqBus.Stream.Lens
/-!
Moving blocks over the two streams of a channel. The control record goes first and tells how long
the payload is; a transfer against the direction of the channel touches neither stream.
-/

namespace DaqBus

open Control

/-- The two ends that the blocks of a channel pass. -/
structure Lane (S σ : Type) where
  direction : Direction
  control : Lens S σ
  data : Lens S σ

namespace Lane

variable {S σ : Type} [ByteStream σ]

/-- The sample count at its place in a control record. -/
def sampleCount (control : Bytes) : UInt32 :=
  Bytes.toWord32 ((control.drop 8).take 4)

/-- The sample size at its place in a control record. -/
def sampleSize (control : Bytes) : UInt16 :=
  Bytes.toWord16 ((control.drop 12).take 2)

/-- Reads the next block. No payload is read for a record that is short or has no usable sample
size; a payload that ends early is returned as far as it goes. -/
def readBlock (lane : Lane S σ) : StoreM S RawBlock := do
  if lane.direction ≠ .input then throw .wrongDirection
  let control ← lane.control.readUpTo recordSize
  if control.length ≠ recordSize then throw .controlWrong
  let size := sampleSize control
  if !isSampleSize size then throw .controlWrong
  let data ← lane.data.readUpTo ((sampleCount control).toNat * size.toNat)
  return { control, data }

/-- Writes a block, the control record before the payload. -/
def writeBlock (lane : Lane S σ) (block : RawBlock) : StoreM S Unit := do
  if lane.direction ≠ .output then throw .wrongDirection
  if block.control.length < recordSize then throw .controlWrong
  lane.control.writeAll block.control
  lane.control.flush
  lane.data.writeAll block.data
  lane.data.flush

end Lane

end DaqBus
