import DaqBus.Bytes.LittleEndian
import DaqBus.Errno.Basic
/-!
Byte streams. A stream answers single reads, writes and flushes; `readUpTo` and `writeAll` drive it
until the wanted bytes are through, and ask again after an interruption.
-/

namespace DaqBus

/-- Failures that carry no code of the operating system. -/
inductive FaultKind
  | interrupted
  | unexpectedEnd
  | writeZero
  | permissionDenied
  | notFound
  | invalidData
  | invalidInput
  | other
deriving DecidableEq, Repr

inductive Fault
  | system (code : Errno)
  | kind (kind : FaultKind)
deriving DecidableEq, Repr

namespace Fault

/-- An interruption says nothing about the stream, so the operation may be repeated. -/
def isInterrupted (f : Fault) : Bool :=
  f = .system .interrupted || f = .kind .interrupted

/-- The code that reports the fault; one without a code counts as a failed input or output. -/
def errno : Fault → Errno
  | .system code => code
  | .kind _ => .inputOutput

end Fault

/-- A stream of bytes. The two counters bound how often it can still be asked in vain. -/
class ByteStream (σ : Type) where
  /-- One read of at most `n` bytes; no bytes means that the stream has ended. -/
  read : (n : Nat) → σ → Except Fault Bytes × σ
  /-- One write; the answer is how many of the bytes were accepted. -/
  write : Bytes → σ → Except Fault Nat × σ
  flush : σ → Except Fault Unit × σ
  readsLeft : σ → Nat
  writesLeft : σ → Nat
  length_read_le : ∀ {n s bs s'}, read n s = (.ok bs, s') → bs.length ≤ n
  readsLeft_of_ok : ∀ {n s b bs s'}, read n s = (.ok (b :: bs), s') → readsLeft s' < readsLeft s
  readsLeft_of_interrupted : ∀ {n s f s'}, read n s = (.error f, s') → f.isInterrupted →
    readsLeft s' < readsLeft s
  writesLeft_of_ok : ∀ {bs s n s'}, write bs s = (.ok n, s') → writesLeft s' ≤ writesLeft s
  writesLeft_of_interrupted : ∀ {bs s f s'}, write bs s = (.error f, s') → f.isInterrupted →
    writesLeft s' < writesLeft s

namespace ByteStream

variable {σ : Type} [ByteStream σ]

/-- Reads until `limit` bytes are there or the stream ends. -/
def readUpTo (limit : Nat) (s : σ) : Except Fault Bytes × σ :=
  if limit = 0 then (.ok [], s)
  else
    match _h : read limit s with
    | (.error f, s') => if _hf : f.isInterrupted then readUpTo limit s' else (.error f, s')
    | (.ok [], s') => (.ok [], s')
    | (.ok (b :: bs), s') =>
      match readUpTo (limit - (bs.length + 1)) s' with
      | (.ok rest, s'') => (.ok (b :: bs ++ rest), s'')
      | (.error f, s'') => (.error f, s'')
termination_by readsLeft s
decreasing_by
  · exact readsLeft_of_interrupted _h _hf
  · exact readsLeft_of_ok _h

/-- Writes until every byte is accepted. A write that accepts nothing is a failure. -/
def writeAll (bs : Bytes) (s : σ) : Except Fault Unit × σ :=
  if _hbs : bs = [] then (.ok (), s)
  else
    match _h : write bs s with
    | (.error f, s') => if _hf : f.isInterrupted then writeAll bs s' else (.error f, s')
    | (.ok 0, s') => (.error (.kind .writeZero), s')
    | (.ok (n + 1), s') => writeAll (bs.drop (n + 1)) s'
termination_by writesLeft s + bs.length
decreasing_by
  · have := writesLeft_of_interrupted _h _hf
    omega
  · have := writesLeft_of_ok _h
    have := List.length_pos_iff.mpr _hbs
    simp only [List.length_drop]
    omega

end ByteStream

end DaqBus
