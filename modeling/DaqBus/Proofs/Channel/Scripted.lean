import DaqBus.Proofs.Stream.Consuming
import DaqBus.Stream.Script

/-!
# Stores of scripted streams

Neither queues nor files deliver in pieces or interrupt a read. Scripts do, in every way there is, so a
store of scripts stands for all the backends whose streams are less well-behaved.
-/

namespace DaqBus

open ByteStream

namespace Script

variable {limit : Nat} {s next : Script}

theorem readsLeft_read_le {outcome : Except Fault Bytes}
    (hread : ByteStream.read limit s = (outcome, next)) :
    ByteStream.readsLeft next ≤ ByteStream.readsLeft s := by
  have hpair : Script.read limit s = (outcome, next) := hread
  show weightOf next.reads ≤ weightOf s.reads
  unfold Script.read at hpair
  split at hpair
  next => cases hpair; exact Nat.le_refl _
  next hreads => cases hpair; rw [hreads]; exact Nat.le_add_left _ _
  next hreads => cases hpair; rw [hreads]; exact Nat.le_add_left _ _
  next chunk rest hreads =>
    split at hpair
    · cases hpair
      rw [hreads]
      exact Nat.le_add_left _ _
    · cases hpair
      rw [hreads]
      simp only [weightOf, ReadEntry.weight, List.length_drop]
      omega

theorem readsLeft_readUpTo_le (limit : Nat) (s : Script) :
    ByteStream.readsLeft (readUpTo limit s).2 ≤ ByteStream.readsLeft s := by
  fun_induction readUpTo limit s with
  | case1 s => exact Nat.le_refl _
  | case2 limit s hlimit fault next hread hfault ih => exact Nat.le_trans ih (readsLeft_read_le hread)
  | case3 limit s hlimit fault next hread hfault => exact readsLeft_read_le hread
  | case4 limit s hlimit next hread => exact readsLeft_read_le hread
  | case5 limit s hlimit b bs next hread rest last hrest ih =>
      rw [hrest] at ih
      exact Nat.le_trans ih (readsLeft_read_le hread)
  | case6 limit s hlimit b bs next hread fault last hrest ih =>
      rw [hrest] at ih
      exact Nat.le_trans ih (readsLeft_read_le hread)

theorem readsLeft_readUpTo_lt {b : UInt8} {bs : Bytes} (hok : (readUpTo limit s).1 = .ok (b :: bs)) :
    ByteStream.readsLeft (readUpTo limit s).2 < ByteStream.readsLeft s := by
  fun_induction readUpTo limit s with
  | case1 s => cases hok
  | case2 limit s hlimit fault next hread hfault ih =>
      exact Nat.lt_of_lt_of_le (ih hok) (readsLeft_read_le hread)
  | case3 limit s hlimit fault next hread hfault => cases hok
  | case4 limit s hlimit next hread => cases hok
  | case5 limit s hlimit first front next hread rest last hrest ih =>
      have hle := readsLeft_readUpTo_le (limit - (front.length + 1)) next
      rw [hrest] at hle
      exact Nat.lt_of_le_of_lt hle (readsLeft_of_ok hread)
  | case6 limit s hlimit first front next hread fault last hrest ih => cases hok

end Script

/-- Scripted streams and nothing else: no devices and no files. -/
structure ScriptStore where
  scripts : List Script

namespace ScriptStore

def script (id : StreamId) : Lens ScriptStore Script where
  view store := store.scripts[id]?.getD {}
  put script store := { store with scripts := store.scripts.set id script }

instance : Backend ScriptStore where
  Stream := Script
  lens := script
  openByName _ := throw .noDevice
  openById _ _ := throw .noDevice
  release _ bus := bus
  readRaw _ _ := throw .noEntry
  writeRaw _ _ := throw .noEntry
  mode _ := throw .noEntry
  modules _ := throw .noModuleList

theorem view_put_self {id : StreamId} {store : ScriptStore} (hid : id < store.scripts.length)
    (s : Script) : (script id).view ((script id).put s store) = s := by
  show ((store.scripts.set id s)[id]?).getD {} = s
  rw [List.getElem?_set_self hid, Option.getD_some]

theorem view_put_ne {id other : StreamId} (hne : id ≠ other) (s : Script) (store : ScriptStore) :
    (script other).view ((script id).put s store) = (script other).view store := by
  show ((store.scripts.set id s)[other]?).getD {} = (store.scripts[other]?).getD {}
  rw [List.getElem?_set_ne hne]

theorem readUpTo_empty (limit : Nat) : readUpTo limit ({} : Script) = (.ok [], {}) := by
  by_cases hlimit : limit = 0
  · rw [hlimit, readUpTo_zero]
  · exact readUpTo_of_ended hlimit rfl

theorem view_readUpTo (id : StreamId) (limit : Nat) (store : ScriptStore) :
    (script id).view ((script id).readUpTo limit store).2 =
      (readUpTo limit ((script id).view store)).2 := by
  rw [Lens.readUpTo, Lens.run_eq]
  by_cases hid : id < store.scripts.length
  · exact view_put_self hid _
  · -- A number without a script reads as an empty one, and nothing can be put back.
    have hend := Nat.not_lt.mp hid
    have hempty : (script id).view store = {} := by
      show (store.scripts[id]?).getD {} = {}
      rw [List.getElem?_eq_none hend, Option.getD_none]
    have hput (s : Script) : (script id).put s store = store := by
      show { store with scripts := store.scripts.set id s } = store
      rw [List.set_eq_of_length_le hend]
    rw [hput, hempty, readUpTo_empty]

instance : ReadsConsume ScriptStore where
  view_readUpTo := view_readUpTo
  view_readUpTo_ne {id other} hne limit store := by
    show (script other).view ((script id).readUpTo limit store).2 = (script other).view store
    rw [Lens.readUpTo, Lens.run_eq, view_put_ne hne]
  readsLeft_le := Script.readsLeft_readUpTo_le
  readsLeft_lt := Script.readsLeft_readUpTo_lt

end ScriptStore

end DaqBus
