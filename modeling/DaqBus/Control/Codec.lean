import DaqBus.Control.Basic
/-!
The wire form of a control record. `encode` writes the fields in order; `decode` reads them back
with a cursor and refuses anything shorter than one record.
-/

namespace DaqBus.Control

/-- A reader that consumes bytes from the front. -/
abbrev Cursor := StateM Bytes

namespace Cursor

def next (n : Nat) : Cursor Bytes := fun bs => (bs.take n, bs.drop n)

def byte : Cursor UInt8 := do return UInt8.ofNat (Bytes.value (← next 1))

def word16 : Cursor UInt16 := do return Bytes.toWord16 (← next 2)

def word32 : Cursor UInt32 := do return Bytes.toWord32 (← next 4)

def word64 : Cursor UInt64 := do return Bytes.toWord64 (← next 8)

def raw (n : Nat) : Cursor (Vector UInt8 n) := do return Bytes.fixed n (← next n)

def words32 : (n : Nat) → Cursor (Vector UInt32 n)
  | 0 => pure #v[]
  | n + 1 => do
    let front ← words32 n
    let last ← word32
    return front.push last

def address : Cursor Address := do
  let family ← word16
  let hostType ← byte
  let filler ← byte
  let hostId ← raw 8
  let deviceId ← word32
  let set ← word16
  let channel ← word16
  let name ← raw 12
  return { family, hostType, filler, hostId, deviceId, set, channel, name }

def stamp : Cursor Stamp := do
  let seconds ← word64
  let ticks ← word64
  let bins ← word64
  return { seconds, ticks, bins }

def snapshot : Cursor Snapshot := do
  let standardMask ← word16
  let unused ← word16
  let extendedMask ← word32
  let standard ← words32 16
  let extended ← words32 32
  return { standardMask, unused, extendedMask, standard, extended }

def extension : Cursor Extension := do
  let kind ← word32
  let length ← word32
  let payload ← raw 8
  return { kind, length, payload }

theorem snd_extension (bs : Bytes) : (extension bs).2 = bs.drop extensionSize := by
  show ((bs.drop 4).drop 4).drop 8 = _
  rw [List.drop_drop, List.drop_drop]
  rfl

/-- Entries, as long as a whole one is left. -/
def extensions : Cursor (List Extension) := fun bs =>
  if extensionSize ≤ bs.length then
    let entry := extension bs
    let more := extensions entry.2
    (entry.1 :: more.1, more.2)
  else ([], bs)
termination_by bs => bs.length
decreasing_by
  rw [snd_extension, List.length_drop]
  have hsize : 0 < extensionSize := by decide
  omega

/-- The fields of a record, and then every whole extension entry that is left. -/
def header : Cursor Header := do
  let major ← byte
  let minor ← byte
  let busAlarms ← byte
  let driverAlarms ← byte
  let sequence ← word32
  let sampleCount ← word32
  let sampleSize ← word16
  let sampleBits ← word16
  let address ← address
  let stamp ← stamp
  let memoryOffset ← word32
  let reserved ← word32
  let flags ← word32
  let trigger ← raw 12
  let channelSnapshot ← snapshot
  let triggerSnapshot ← snapshot
  let extensions ← extensions
  return { major, minor, busAlarms, driverAlarms, sequence, sampleCount, sampleSize, sampleBits,
           address, stamp, memoryOffset, reserved, flags, trigger, channelSnapshot,
           triggerSnapshot, extensions }

end Cursor

/-- A byte string that is too short for a record. -/
structure Malformed where
  expected : Nat
  actual : Nat
deriving DecidableEq, Repr

def Malformed.message (m : Malformed) : String :=
  s!"Malformed control record: got {m.actual} bytes, need at least {m.expected}"

/-- Reads a record. Bytes after the last whole extension entry are ignored. -/
def Header.decode (bs : Bytes) : Except Malformed Header :=
  if bs.length < recordSize then .error ⟨recordSize, bs.length⟩
  else .ok (Cursor.header.run bs).1

def Address.encode (a : Address) : Bytes :=
  Bytes.ofWord16 a.family ++ [a.hostType, a.filler] ++ a.hostId.toList ++
    Bytes.ofWord32 a.deviceId ++ Bytes.ofWord16 a.set ++ Bytes.ofWord16 a.channel ++ a.name.toList

def Stamp.encode (s : Stamp) : Bytes :=
  Bytes.ofWord64 s.seconds ++ Bytes.ofWord64 s.ticks ++ Bytes.ofWord64 s.bins

def Snapshot.encode (s : Snapshot) : Bytes :=
  Bytes.ofWord16 s.standardMask ++ Bytes.ofWord16 s.unused ++ Bytes.ofWord32 s.extendedMask ++
    s.standard.toList.flatMap Bytes.ofWord32 ++ s.extended.toList.flatMap Bytes.ofWord32

def Extension.encode (e : Extension) : Bytes :=
  Bytes.ofWord32 e.kind ++ Bytes.ofWord32 e.length ++ e.payload.toList

/-- The entries that are written: a record always has one, which is zero if there is no other. -/
def Header.writtenExtensions (h : Header) : List Extension :=
  if h.extensions = [] then [{}] else h.extensions

/-- Everything before the extension entries. -/
def Header.encodeFields (h : Header) : Bytes :=
  [h.major, h.minor, h.busAlarms, h.driverAlarms] ++ Bytes.ofWord32 h.sequence ++
    Bytes.ofWord32 h.sampleCount ++ Bytes.ofWord16 h.sampleSize ++ Bytes.ofWord16 h.sampleBits ++
    h.address.encode ++ h.stamp.encode ++ Bytes.ofWord32 h.memoryOffset ++
    Bytes.ofWord32 h.reserved ++ Bytes.ofWord32 h.flags ++ h.trigger.toList ++
    h.channelSnapshot.encode ++ h.triggerSnapshot.encode

def Header.encode (h : Header) : Bytes :=
  h.encodeFields ++ h.writtenExtensions.flatMap Extension.encode

/-- The number of bytes that `encode` writes. -/
def Header.encodedLength (h : Header) : Nat :=
  recordSize - extensionSize + extensionSize * max h.extensions.length 1

end DaqBus.Control
