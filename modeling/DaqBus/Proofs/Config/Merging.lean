import DaqBus.Proofs.Config.Laws

/-!
# Layers of dictionaries

Two dictionaries are merged key by key, and dictionaries under one key are merged again. So the merge of
two layers whose sections are tables holds, under every key of a section, what the later layer has there,
and otherwise what the earlier one has: no layer takes a section away from the other as a whole.
-/

namespace DaqBus.Config

theorem lookup_cons_eq_ite {α : Type} (key name : String) (a : α) (entries : List (String × α)) :
    ((name, a) :: entries).lookup key = if key = name then some a else entries.lookup key := by
  by_cases hkey : key = name
  · rw [List.lookup_cons, beq_iff_eq.mpr hkey, if_pos hkey]
  · rw [List.lookup_cons, beq_eq_false_iff_ne.mpr hkey, if_neg hkey]

namespace Library

variable {Value Error Document : Type} {lib : Library Value Error Document}
  {earlier later value inner : Value} {entries items : List (String × Value)} {part key : String}

theorem joined_none (lib : Library Value Error Document) (earlier : Option Value) :
    lib.joined earlier none = earlier := by
  cases earlier <;> rfl

theorem joined_ne_none (lib : Library Value Error Document) (value : Value)
    (earlier later : Option Value) : lib.joined (lib.joined (some value) earlier) later ≠ none := by
  cases earlier <;> cases later <;> nofun

theorem at?_section (hentries : lib.entries? value = some entries)
    (hpart : entries.lookup part = some inner) (hinner : lib.entries? inner = some items) :
    lib.at? value [part, key] = items.lookup key := by
  simp [at?, lookupAt, hentries, hpart, hinner]

theorem at?_of_lookup_eq_none (hentries : lib.entries? value = some entries)
    (hpart : entries.lookup part = none) : lib.at? value [part, key] = none := by
  simp [at?, lookupAt, hentries, hpart]

/-- A dictionary in which a part, if it is there, is a dictionary. -/
def HasTable (lib : Library Value Error Document) (value : Value) (part : String) : Prop :=
  ∃ entries, lib.entries? value = some entries ∧
    ∀ inner, entries.lookup part = some inner → lib.IsDict inner

/-- What there is of a part. -/
theorem HasTable.cases (h : lib.HasTable value part) :
    ∃ entries, lib.entries? value = some entries ∧
      (entries.lookup part = none ∨
        ∃ inner items, entries.lookup part = some inner ∧ lib.entries? inner = some items) := by
  obtain ⟨entries, hentries, hpart⟩ := h
  refine ⟨entries, hentries, ?_⟩
  cases hlookup : entries.lookup part with
  | none => exact .inl rfl
  | some inner =>
      obtain ⟨items, hitems⟩ := Option.isSome_iff_exists.mp (hpart inner hlookup)
      exact .inr ⟨inner, items, rfl, hitems⟩

theorem IsLawful.hasTable_merge (hlib : lib.IsLawful) (hearlier : lib.HasTable earlier part)
    (hlater : lib.HasTable later part) : lib.HasTable (lib.merge earlier later) part := by
  obtain ⟨first, hfirst, hfirstPart⟩ := hearlier
  obtain ⟨second, hsecond, hsecondPart⟩ := hlater
  obtain ⟨entries, hentries, hlookup⟩ := hlib.merge_dict hfirst hsecond
  refine ⟨entries, hentries, fun inner hinner => ?_⟩
  rw [hlookup] at hinner
  cases hone : first.lookup part with
  | none =>
      rw [hone] at hinner
      exact hsecondPart inner hinner
  | some one =>
      cases hother : second.lookup part with
      | none =>
          rw [hone, hother] at hinner
          exact hfirstPart inner (hone.trans hinner)
      | some other =>
          rw [hone, hother] at hinner
          cases hinner
          obtain ⟨items, hitems⟩ := Option.isSome_iff_exists.mp (hfirstPart one hone)
          obtain ⟨others, hothers⟩ := Option.isSome_iff_exists.mp (hsecondPart other hother)
          obtain ⟨merged, hmerged, -⟩ := hlib.merge_dict hitems hothers
          exact Option.isSome_iff_exists.mpr ⟨merged, hmerged⟩

/-- A key of a part is looked up in either layer on its own. -/
theorem IsLawful.at?_merge (hlib : lib.IsLawful) (hearlier : lib.HasTable earlier part)
    (hlater : lib.HasTable later part) (key : String) :
    lib.at? (lib.merge earlier later) [part, key] =
      lib.joined (lib.at? earlier [part, key]) (lib.at? later [part, key]) := by
  obtain ⟨first, hfirst, hfirstPart⟩ := hearlier.cases
  obtain ⟨second, hsecond, hsecondPart⟩ := hlater.cases
  obtain ⟨entries, hentries, hlookup⟩ := hlib.merge_dict hfirst hsecond
  replace hlookup := hlookup part
  rcases hfirstPart with hone | ⟨one, items, hone, hitems⟩ <;>
    rcases hsecondPart with hother | ⟨other, others, hother, hothers⟩ <;>
    rw [hone, hother] at hlookup
  · rw [at?_of_lookup_eq_none hentries hlookup, at?_of_lookup_eq_none hfirst hone,
      at?_of_lookup_eq_none hsecond hother]
    rfl
  · rw [at?_section hentries hlookup hothers, at?_of_lookup_eq_none hfirst hone,
      at?_section hsecond hother hothers]
    rfl
  · rw [at?_section hentries hlookup hitems, at?_section hfirst hone hitems,
      at?_of_lookup_eq_none hsecond hother, joined_none]
  · obtain ⟨merged, hmerged, hkeys⟩ := hlib.merge_dict hitems hothers
    rw [at?_section hentries hlookup hmerged, at?_section hfirst hone hitems,
      at?_section hsecond hother hothers, hkeys]

theorem IsLawful.hasTable_empty (hlib : lib.IsLawful) (part : String) : lib.HasTable lib.empty part :=
  ⟨[], hlib.entries?_empty, nofun⟩

theorem IsLawful.at?_empty (hlib : lib.IsLawful) (part key : String) :
    lib.at? lib.empty [part, key] = none :=
  at?_of_lookup_eq_none hlib.entries?_empty rfl

/-! ### Values of single settings -/

/-- What a scalar is read from, with a default below two layers. Two dictionaries under the key of a
setting are merged, but then neither is its value. -/
theorem IsLawful.read_joined (hlib : lib.IsLawful) {α : Type} {codec : Codec Value Error α}
    (hcodec : lib.IsScalar codec) (byDefault a : α) (earlier later : Option Value) :
    (∃ value, lib.joined (lib.joined (some (codec.write byDefault)) earlier) later = some value ∧
        codec.read value = .ok a) ↔
      codec.Takes byDefault (later.or earlier) a := by
  have hover (value : Value) : lib.merge (codec.write byDefault) value = value :=
    hlib.merge_other fun h => hcodec.not_isDict_write byDefault h.1
  rcases earlier with _ | earlier <;> rcases later with _ | later
  · show (∃ value, some (codec.write byDefault) = some value ∧ _) ↔ a = byDefault
    simp [hcodec.read_write, eq_comm]
  · show (∃ value, some (lib.merge (codec.write byDefault) later) = some value ∧ _) ↔ _
    rw [hover]
    simp [Codec.Takes]
  · show (∃ value, some (lib.merge (codec.write byDefault) earlier) = some value ∧ _) ↔ _
    rw [hover]
    simp [Codec.Takes]
  · show (∃ value, some (lib.merge (lib.merge (codec.write byDefault) earlier) later) = some value ∧ _) ↔
      codec.read later = .ok a
    rw [hover]
    simp only [Option.some.injEq, exists_eq_left']
    by_cases hdicts : lib.IsDict earlier ∧ lib.IsDict later
    · obtain ⟨items, hitems⟩ := Option.isSome_iff_exists.mp hdicts.1
      obtain ⟨others, hothers⟩ := Option.isSome_iff_exists.mp hdicts.2
      obtain ⟨merged, hmerged, -⟩ := hlib.merge_dict hitems hothers
      have hdict : lib.IsDict (lib.merge earlier later) := Option.isSome_iff_exists.mpr ⟨merged, hmerged⟩
      exact iff_of_false (hcodec.read_dict hdict a) (hcodec.read_dict hdicts.2 a)
    · rw [hlib.merge_other hdicts]

end Library

end DaqBus.Config
