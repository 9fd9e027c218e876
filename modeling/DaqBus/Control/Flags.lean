import DaqBus.Control.Basic
import DaqBus.Text.Numeral
/-!
The named bits of a control record, its one-screen summary, and the alarm bits of a block.
-/

namespace DaqBus.Control

inductive Flag
  | msbAlign
  | lsbAlign
  | littleEndian
  | bigEndian
deriving DecidableEq, Repr

def Flag.bits : Flag → UInt32
  | .msbAlign => 0x00100000
  | .lsbAlign => 0x00200000
  | .littleEndian => 0x01000000
  | .bigEndian => 0x02000000

def Flag.name : Flag → String
  | .msbAlign => "MSB_ALIGN"
  | .lsbAlign => "LSB_ALIGN"
  | .littleEndian => "LITTLE_ENDIAN"
  | .bigEndian => "BIG_ENDIAN"

def Flag.all : List Flag := [.msbAlign, .lsbAlign, .littleEndian, .bigEndian]

/-- What the framework reports as lost before a block. -/
inductive Alarm
  | lostBlock
  | lostTrigger
  | lostSniff
deriving DecidableEq, Repr

def Alarm.bits : Alarm → UInt8
  | .lostBlock => 1
  | .lostTrigger => 2
  | .lostSniff => 4

def Alarm.name : Alarm → String
  | .lostBlock => "LOST_BLOCK"
  | .lostTrigger => "LOST_TRIGGER"
  | .lostSniff => "LOST_SNIFF"

def Alarm.all : List Alarm := [.lostBlock, .lostTrigger, .lostSniff]

def Alarm.isRaised (alarm : Alarm) (byte : UInt8) : Bool :=
  byte &&& alarm.bits = alarm.bits

def Alarm.raised (byte : UInt8) : List Alarm :=
  Alarm.all.filter (·.isRaised byte)

def Header.hasFlag (h : Header) (flag : Flag) : Bool :=
  h.flags &&& flag.bits = flag.bits

def Header.namedFlags (h : Header) : List Flag :=
  Flag.all.filter h.hasFlag

def Header.byteOrder (h : Header) : String :=
  if h.hasFlag .littleEndian then "little-endian"
  else if h.hasFlag .bigEndian then "big-endian"
  else "unknown-endian"

open Text in
def Header.summary (h : Header) : String :=
  let a := h.address
  let source := s!"trigger {h.triggerText}, dev {a.nameText}-{hex 4 a.deviceId.toNat}"
  let alarms := s!"alarms 0x{hex 2 h.busAlarms.toNat} 0x{hex 2 h.driverAlarms.toNat}"
  let size := s!"n {h.sampleCount}, size {h.sampleSize}, bits {h.sampleBits}"
  let stamp := s!"{h.stamp.seconds}.{decimal 9 h.stamp.ticks.toNat} ({h.stamp.bins})"
  "\n".intercalate [
    s!"Ctrl: version {h.major}.{h.minor}, {source}, cset {a.set}, chan {a.channel}",
    s!"Ctrl: {alarms}",
    s!"Ctrl: seq {h.sequence}, {size}, flags {hex 8 h.flags.toNat} ({h.byteOrder})",
    s!"Ctrl: stamp {stamp}",
    s!"Ctrl: mem_offset {hex 8 h.memoryOffset.toNat}"]

end DaqBus.Control
