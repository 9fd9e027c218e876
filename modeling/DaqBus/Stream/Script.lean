import DaqBus.Stream.Basic
/-!
Scripted streams: every read, write and flush takes the next entry of its script. After the end of a
script reads find nothing, writes accept everything and flushes succeed.
-/

namespace DaqBus

/-- What one read of a scripted stream finds. -/
inductive ReadEntry
  | chunk (bytes : Bytes)
  | ended
  | fault (fault : Fault)
deriving DecidableEq, Repr

/-- What one write to a scripted stream meets. -/
inductive WriteEntry
  | accept (count : Nat)
  | fault (fault : Fault)
deriving DecidableEq, Repr

/-- A scripted stream, with the bytes it has accepted so far. -/
structure Script where
  reads : List ReadEntry := []
  writes : List WriteEntry := []
  flushes : List (Option Fault) := []
  accepted : Bytes := []
deriving DecidableEq, Repr

namespace Script

/-- One read takes at most one chunk, or the part of it that fits. -/
def read (n : Nat) (s : Script) : Except Fault Bytes × Script :=
  match s.reads with
  | [] => (.ok [], s)
  | .ended :: rest => (.ok [], { s with reads := rest })
  | .fault f :: rest => (.error f, { s with reads := rest })
  | .chunk bs :: rest =>
    if bs.length ≤ n then (.ok bs, { s with reads := rest })
    else (.ok (bs.take n), { s with reads := .chunk (bs.drop n) :: rest })

def write (bs : Bytes) (s : Script) : Except Fault Nat × Script :=
  match s.writes with
  | [] => (.ok bs.length, { s with accepted := s.accepted ++ bs })
  | .fault f :: rest => (.error f, { s with writes := rest })
  | .accept n :: rest =>
    (.ok (min n bs.length), { s with writes := rest, accepted := s.accepted ++ bs.take n })

def flush (s : Script) : Except Fault Unit × Script :=
  match s.flushes with
  | [] => (.ok (), s)
  | none :: rest => (.ok (), { s with flushes := rest })
  | some f :: rest => (.error f, { s with flushes := rest })

def ReadEntry.weight : ReadEntry → Nat
  | .chunk bs => bs.length + 1
  | _ => 1

/-- Reads that all entries together can serve. -/
def weightOf : List ReadEntry → Nat
  | [] => 0
  | entry :: rest => ReadEntry.weight entry + weightOf rest

def readsLeft (s : Script) : Nat := weightOf s.reads

instance : ByteStream Script where
  read := read
  write := write
  flush := flush
  readsLeft := readsLeft
  writesLeft := fun s => s.writes.length
  length_read_le {n s bs s'} h := by
    unfold read at h
    split at h
    · cases h; simp
    · cases h; simp
    · cases h
    · split at h <;> cases h
      · assumption
      · exact List.length_take_le _ _
  readsLeft_of_ok {n s b bs s'} h := by
    unfold read at h
    split at h
    · cases h
    · cases h
    · cases h
    · rename_i chunk rest hs
      split at h
      · cases h
        simp [readsLeft, weightOf, hs, ReadEntry.weight]
      · have hpair := Prod.mk.inj h
        have htake : chunk.take n = b :: bs := Except.ok.inj hpair.1
        have hlen : (chunk.take n).length = bs.length + 1 := by rw [htake]; rfl
        rw [← hpair.2]
        simp only [List.length_take] at hlen
        simp [readsLeft, weightOf, hs, ReadEntry.weight]
        omega
  readsLeft_of_interrupted {n s f s'} h _ := by
    unfold read at h
    split at h
    · cases h
    · cases h
    · rename_i f' rest hs
      cases h
      simp [readsLeft, weightOf, hs, ReadEntry.weight]
    · split at h <;> cases h
  writesLeft_of_ok {bs s n s'} h := by
    unfold write at h
    split at h
    · rename_i hs; cases h; simp [hs]
    · cases h
    · rename_i hs; cases h; simp [hs]
  writesLeft_of_interrupted {bs s f s'} h _ := by
    unfold write at h
    split at h
    · cases h
    · rename_i hs; cases h; simp [hs]
    · cases h

end Script

end DaqBus
