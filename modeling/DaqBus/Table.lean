/-!
Finite maps with decidable keys, as lists of entries. `find?_insert` and `find?_erase` say all that
the operations do.
-/

namespace DaqBus

structure Table (α β : Type) where
  entries : List (α × β) := []
deriving DecidableEq, Repr

namespace Table

variable {α β : Type} [DecidableEq α]

def find? (t : Table α β) (key : α) : Option β :=
  t.entries.lookup key

def erase (t : Table α β) (key : α) : Table α β :=
  ⟨t.entries.filter fun entry => entry.1 ≠ key⟩

/-- The table with a value for a key, in place of the former one if there is one. -/
def insert (t : Table α β) (key : α) (value : β) : Table α β :=
  ⟨(key, value) :: (t.erase key).entries⟩

def keys (t : Table α β) : List α :=
  t.entries.map Prod.fst

theorem find?_cons (key : α) (value : β) (entries : List (α × β)) (other : α) :
    find? ⟨(key, value) :: entries⟩ other =
      if other = key then some value else find? ⟨entries⟩ other := by
  by_cases hkey : other = key
  · rw [if_pos hkey, find?, List.lookup_cons, beq_iff_eq.mpr hkey]
  · rw [if_neg hkey, find?, List.lookup_cons, beq_eq_false_iff_ne.mpr hkey]
    rfl

theorem mem_keys_of_find? {t : Table α β} {key : α} {value : β} (h : t.find? key = some value) :
    key ∈ t.keys := by
  obtain ⟨front, back, hentries, -⟩ := List.lookup_eq_some_iff.mp h
  rw [keys, hentries]
  exact List.mem_map_of_mem (List.mem_append_right front List.mem_cons_self)

theorem find?_erase (t : Table α β) (key other : α) :
    (t.erase key).find? other = if other = key then none else t.find? other := by
  obtain ⟨entries⟩ := t
  induction entries with
  | nil => simp [erase, find?]
  | cons entry rest ih =>
    obtain ⟨k, v⟩ := entry
    rw [erase] at ih ⊢
    rw [find?_cons]
    by_cases hk : k = key
    · rw [List.filter_cons_of_neg (by simpa using hk), ih]
      by_cases hother : other = key
      · rw [if_pos hother, if_pos hother]
      · rw [if_neg hother, if_neg hother, if_neg (hk ▸ hother)]
    · rw [List.filter_cons_of_pos (by simpa using hk), find?_cons, ih]
      by_cases hother : other = key
      · rw [if_pos hother, if_pos hother, if_neg (hother ▸ Ne.symm hk)]
      · rw [if_neg hother, if_neg hother]

theorem find?_insert (t : Table α β) (key other : α) (value : β) :
    (t.insert key value).find? other = if other = key then some value else t.find? other := by
  rw [insert, find?_cons]
  by_cases hother : other = key
  · rw [if_pos hother, if_pos hother]
  · rw [if_neg hother, if_neg hother]
    exact (find?_erase t key other).trans (if_neg hother)

end Table

end DaqBus
