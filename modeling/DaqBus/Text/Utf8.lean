import DaqBus.Bytes.LittleEndian
/-!
UTF-8. `encode` writes text as bytes; `decode` reads any bytes as text, with one replacement
character for each broken sequence.
-/

namespace DaqBus.Text.Utf8

def encode (s : String) : Bytes :=
  s.toList.flatMap String.utf8EncodeChar

/-- What stands in the text for a broken sequence. -/
def replacement : Char := '\uFFFD'

/-- Bytes that may stand after the first one of a sequence. -/
def isContinuation (b : UInt8) : Bool := 0x80 ≤ b && b ≤ 0xBF

/-- Bytes that may follow the lead byte `lead`. The narrower ranges keep out overlong forms,
surrogates and numbers past the last character. -/
def isSecond (lead b : UInt8) : Bool :=
  if lead = 0xE0 then 0xA0 ≤ b && b ≤ 0xBF
  else if lead = 0xED then 0x80 ≤ b && b ≤ 0x9F
  else if lead = 0xF0 then 0x90 ≤ b && b ≤ 0xBF
  else if lead = 0xF4 then 0x80 ≤ b && b ≤ 0x8F
  else isContinuation b

/-- How many bytes a sequence has, by its lead byte; zero where no sequence starts so. -/
def width (lead : UInt8) : Nat :=
  if lead < 0x80 then 1
  else if 0xC2 ≤ lead && lead ≤ 0xDF then 2
  else if 0xE0 ≤ lead && lead ≤ 0xEF then 3
  else if 0xF0 ≤ lead && lead ≤ 0xF4 then 4
  else 0

/-- The six payload bits of a continuation byte. -/
def payload (b : UInt8) : Nat := b.toNat % 64

/-- The character that starts at `lead`, and how many of the bytes after it belong to it. A broken
sequence ends before the first byte that cannot continue it. -/
def first (lead : UInt8) (rest : Bytes) : Char × Nat :=
  match width lead, rest with
  | 1, _ => (Char.ofNat lead.toNat, 0)
  | 2, b1 :: _ =>
    if isContinuation b1 then (Char.ofNat (lead.toNat % 32 * 64 + payload b1), 1)
    else (replacement, 0)
  | 3, b1 :: b2 :: _ =>
    if !isSecond lead b1 then (replacement, 0)
    else if isContinuation b2 then
      (Char.ofNat ((lead.toNat % 16 * 64 + payload b1) * 64 + payload b2), 2)
    else (replacement, 1)
  | 3, [b1] => (replacement, if isSecond lead b1 then 1 else 0)
  | 4, b1 :: b2 :: b3 :: _ =>
    if !isSecond lead b1 then (replacement, 0)
    else if !isContinuation b2 then (replacement, 1)
    else if isContinuation b3 then
      (Char.ofNat (((lead.toNat % 8 * 64 + payload b1) * 64 + payload b2) * 64 + payload b3), 3)
    else (replacement, 2)
  | 4, [b1, b2] =>
    (replacement, if !isSecond lead b1 then 0 else if isContinuation b2 then 2 else 1)
  | 4, [b1] => (replacement, if isSecond lead b1 then 1 else 0)
  | _, _ => (replacement, 0)

def decodeChars : Bytes → List Char
  | [] => []
  | lead :: rest => (first lead rest).1 :: decodeChars (rest.drop (first lead rest).2)
termination_by bs => bs.length
decreasing_by
  simp only [List.length_drop, List.length_cons]
  omega

def decode (bs : Bytes) : String :=
  String.ofList (decodeChars bs)

end DaqBus.Text.Utf8
