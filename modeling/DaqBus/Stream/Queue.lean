import DaqBus.Stream.Basic
/-!
Byte queues: what is written at the end is read from the front, in order. An empty queue reads as
ended.
-/

namespace DaqBus

/-- A first-in first-out queue of bytes. -/
structure Queue where
  bytes : Bytes := []
deriving DecidableEq, Repr

namespace Queue

def push (bs : Bytes) (q : Queue) : Queue := ⟨q.bytes ++ bs⟩

instance : ByteStream Queue where
  read n q := (.ok (q.bytes.take n), ⟨q.bytes.drop n⟩)
  write bs q := (.ok bs.length, q.push bs)
  flush q := (.ok (), q)
  readsLeft q := q.bytes.length
  writesLeft _ := 0
  length_read_le {n q bs q'} h := by
    cases h
    exact List.length_take_le _ _
  readsLeft_of_ok {n q b bs q'} h := by
    have hpair := Prod.mk.inj h
    have htake : q.bytes.take n = b :: bs := Except.ok.inj hpair.1
    have hlen : (q.bytes.take n).length = bs.length + 1 := by rw [htake]; rfl
    rw [← hpair.2]
    simp only [List.length_take] at hlen
    simp
    omega
  readsLeft_of_interrupted h _ := by cases h
  writesLeft_of_ok _ := Nat.le_refl 0
  writesLeft_of_interrupted h _ := by cases h

end Queue

end DaqBus
