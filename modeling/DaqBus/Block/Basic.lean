import DaqBus.Block.Samples
/-!
Blocks: a control record with the samples it announces, in decoded and in raw form.
-/

namespace DaqBus

open Control

/-- A block as it travels: the bytes of the control record and those of the payload. -/
structure RawBlock where
  control : Bytes := []
  data : Bytes := []
deriving DecidableEq, Repr

structure Block where
  header : Header
  samples : Samples
deriving DecidableEq

inductive BlockFault
  /-- The control record is too short. -/
  | malformed (size : Malformed)
  /-- The payload is shorter than the record announces. -/
  | truncated (expected actual : Nat)
  /-- The sample size is none that samples can have. -/
  | unsupportedSampleSize (size : UInt16)
deriving DecidableEq, Repr

def BlockFault.message : BlockFault → String
  | malformed m => s!"Malformed control header: got {m.actual} bytes, need {m.expected}"
  | truncated expected actual => s!"Truncated payload: got {actual} bytes, need {expected}"
  | unsupportedSampleSize size => s!"Unsupported sample size {size} (expected 1, 2, 4 or 8)"

/-- The first `count` words of `width` bytes each. -/
def Bytes.words (width : Nat) : (count : Nat) → Bytes → List Bytes
  | 0, _ => []
  | count + 1, bs => bs.take width :: words width count (bs.drop width)

/-- Samples of a width, from the front of a payload that is long enough. -/
def Samples.read? (size : UInt16) (count : Nat) (payload : Bytes) : Option Samples :=
  if size = 1 then some (.u8 (payload.take count))
  else if size = 2 then some (.u16 ((Bytes.words 2 count payload).map Bytes.toWord16))
  else if size = 4 then some (.u32 ((Bytes.words 4 count payload).map Bytes.toWord32))
  else if size = 8 then some (.u64 ((Bytes.words 8 count payload).map Bytes.toWord64))
  else none

/-- Reads the samples that a header announces. The sample size is looked at first, and bytes after
the announced payload are ignored. Samples are little-endian whatever the flags say. -/
def Samples.decode (h : Header) (payload : Bytes) : Except BlockFault Samples :=
  if !isSampleSize h.sampleSize then .error (.unsupportedSampleSize h.sampleSize)
  else if payload.length < h.payloadLength then
    .error (.truncated h.payloadLength payload.length)
  else
    match Samples.read? h.sampleSize h.sampleCount.toNat payload with
    | some samples => .ok samples
    | none => .error (.unsupportedSampleSize h.sampleSize)

def Block.decodeHeader (control : Bytes) : Except BlockFault Header :=
  (Header.decode control).mapError .malformed

/-- Reads a block: first its header, then the samples. -/
def Block.decode (raw : RawBlock) : Except BlockFault Block := do
  let header ← decodeHeader raw.control
  let samples ← Samples.decode header raw.data
  return { header, samples }

/-- A block for writing: the header takes count and size from the samples. -/
def Block.ofSamples (header : Header) (samples : Samples) : Block where
  header := { header with
    sampleCount := UInt32.ofNat samples.length
    sampleSize := UInt16.ofNat samples.width }
  samples := samples

def Block.payload (b : Block) : Bytes := b.samples.toBytes

def Block.encode (b : Block) : RawBlock where
  control := b.header.encode
  data := b.payload

end DaqBus
