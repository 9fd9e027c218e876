import DaqBus.Text.Utf8
/-!
The control record that precedes every block: its fields, its fixed-width names and the slots of its
attribute snapshots.
-/

namespace DaqBus

namespace Bytes

/-- Exactly `n` bytes: cut, or filled up with zeros. -/
def fixed (n : Nat) (bs : Bytes) : Vector UInt8 n :=
  ⟨(fit n bs).toArray, by simp [length_fit]⟩

/-- A name in a field of `n` bytes, cut on bytes and filled up with zeros. -/
def ofName (n : Nat) (name : String) : Vector UInt8 n :=
  fixed n (Text.Utf8.encode name)

/-- The name in a fixed field, which ends at the first zero byte. -/
def toName {n : Nat} (field : Vector UInt8 n) : String :=
  Text.Utf8.decode (field.toList.takeWhile (· ≠ 0))

end Bytes

namespace Control

/-- The size of a control record with one extension entry. -/
def recordSize : Nat := 512

def extensionSize : Nat := 16

/-- The capacity of the standard attribute group. -/
def standardSlots : Nat := 16

/-- The capacity of the extended attribute group. -/
def extendedSlots : Nat := 32

structure Address where
  family : UInt16 := 0
  hostType : UInt8 := 0
  filler : UInt8 := 0
  hostId : Vector UInt8 8 := Vector.replicate 8 0
  deviceId : UInt32 := 0
  set : UInt16 := 0
  channel : UInt16 := 0
  name : Vector UInt8 12 := Vector.replicate 12 0
deriving DecidableEq

structure Stamp where
  seconds : UInt64 := 0
  ticks : UInt64 := 0
  bins : UInt64 := 0
deriving DecidableEq

/-- Attribute values at the time of acquisition. Only slots whose mask bit is set mean something. -/
structure Snapshot where
  standardMask : UInt16 := 0
  unused : UInt16 := 0
  extendedMask : UInt32 := 0
  standard : Vector UInt32 16 := Vector.replicate 16 0
  extended : Vector UInt32 32 := Vector.replicate 32 0
deriving DecidableEq

/-- One extension entry: a kind, a length and eight bytes in place. -/
structure Extension where
  kind : UInt32 := 0
  length : UInt32 := 0
  payload : Vector UInt8 8 := Vector.replicate 8 0
deriving DecidableEq

structure Header where
  major : UInt8 := 0
  minor : UInt8 := 0
  busAlarms : UInt8 := 0
  driverAlarms : UInt8 := 0
  sequence : UInt32 := 0
  sampleCount : UInt32 := 0
  sampleSize : UInt16 := 0
  sampleBits : UInt16 := 0
  address : Address := {}
  stamp : Stamp := {}
  memoryOffset : UInt32 := 0
  reserved : UInt32 := 0
  flags : UInt32 := 0
  trigger : Vector UInt8 12 := Vector.replicate 12 0
  channelSnapshot : Snapshot := {}
  triggerSnapshot : Snapshot := {}
  extensions : List Extension := [{}]
deriving DecidableEq

def Address.nameText (a : Address) : String := Bytes.toName a.name

def Address.withName (a : Address) (name : String) : Address :=
  { a with name := Bytes.ofName 12 name }

def Header.triggerText (h : Header) : String := Bytes.toName h.trigger

def Header.withTrigger (h : Header) (name : String) : Header :=
  { h with trigger := Bytes.ofName 12 name }

def Header.withName (h : Header) (name : String) : Header :=
  { h with address := h.address.withName name }

/-- Whether the bit of a slot is set in a mask. There are never more slots than the word has bits. -/
def isSelected (mask : UInt32) (slot : Nat) : Bool :=
  mask &&& (1 <<< UInt32.ofNat slot) ≠ 0

/-- The slots whose bit is set in a mask, with their values. -/
def selected (mask : UInt32) (values : List UInt32) : List (Nat × UInt32) :=
  (values.zipIdx.filter fun slot => isSelected mask slot.2).map fun slot => (slot.2, slot.1)

def Snapshot.standardValues (s : Snapshot) : List (Nat × UInt32) :=
  selected s.standardMask.toUInt32 s.standard.toList

def Snapshot.extendedValues (s : Snapshot) : List (Nat × UInt32) :=
  selected s.extendedMask s.extended.toList

/-- The number of payload bytes a header announces. -/
def Header.payloadLength (h : Header) : Nat :=
  h.sampleCount.toNat * h.sampleSize.toNat

/-- The sample sizes that blocks can have. -/
def isSampleSize (size : UInt16) : Bool :=
  size = 1 || size = 2 || size = 4 || size = 8

end Control

end DaqBus
