import DaqBus.Stream.Basic
/-!
Open files as streams. Reading and writing go on from where the last operation ended, and writing
overwrites what is there. A directory that has been opened can be asked, but not read.
-/

namespace DaqBus

/-- An open file: its content, or nothing for a directory, and where the next operation begins. -/
structure FileStream where
  content : Option Bytes
  offset : Nat
deriving DecidableEq, Repr

namespace FileStream

def read (n : Nat) (f : FileStream) : Except Fault Bytes × FileStream :=
  match f.content with
  | none => (.error (.system .isDirectory), f)
  | some content =>
    let bs := (content.drop f.offset).take n
    (.ok bs, { f with offset := f.offset + bs.length })

/-- The content with `new` from an offset on; a gap before it is filled with zeros. -/
def overwrite (offset : Nat) (new old : Bytes) : Bytes :=
  Bytes.fit offset old ++ new ++ old.drop (offset + new.length)

def write (bs : Bytes) (f : FileStream) : Except Fault Nat × FileStream :=
  match f.content with
  | none => (.error (.system .isDirectory), f)
  | some content =>
    (.ok bs.length,
      { content := some (overwrite f.offset bs content), offset := f.offset + bs.length })

def readsLeft (f : FileStream) : Nat :=
  (f.content.getD []).length - f.offset

instance : ByteStream FileStream where
  read := read
  write := write
  flush f := (.ok (), f)
  readsLeft := readsLeft
  writesLeft _ := 0
  length_read_le {n f bs f'} h := by
    unfold read at h
    split at h
    · cases h
    · cases h
      exact List.length_take_le _ _
  readsLeft_of_ok {n f b bs f'} h := by
    unfold read at h
    split at h
    · cases h
    · rename_i content hcontent
      have hpair := Prod.mk.inj h
      have htake : (content.drop f.offset).take n = b :: bs := Except.ok.inj hpair.1
      have hlen : ((content.drop f.offset).take n).length = bs.length + 1 := by rw [htake]; rfl
      rw [← hpair.2]
      simp only [List.length_take, List.length_drop] at hlen
      simp [readsLeft, hcontent]
      omega
  readsLeft_of_interrupted {n f fault f'} h hf := by
    unfold read at h
    split at h
    · cases h
      simp [Fault.isInterrupted, Errno.isDirectory, Errno.interrupted] at hf
    · cases h
  writesLeft_of_ok _ := Nat.le_refl 0
  writesLeft_of_interrupted {bs f fault f'} h hf := by
    unfold write at h
    split at h
    · cases h
      simp [Fault.isInterrupted, Errno.isDirectory, Errno.interrupted] at hf
    · cases h

end FileStream

end DaqBus
