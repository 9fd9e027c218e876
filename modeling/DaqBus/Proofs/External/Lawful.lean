import DaqBus.Proofs.External.Merging
import DaqBus.Proofs.Text.Blank

/-!
# The library keeps its promises

Records are read and written field by field, and the variable of a setting is found by its name in any
case.
-/

namespace DaqBus.External

open Config

variable {entries : List (String × Value)}

/-! ### Scalars -/

theorem isDict_iff {value : Value} : library.IsDict value ↔ ∃ entries, value = .dict entries := by
  cases value <;> simp [Library.IsDict, library, Value.entries?]

theorem isScalar_text (expected : Expected) :
    library.IsScalar ⟨Value.toText expected, Value.text⟩ where
  read_write _ := rfl
  not_isDict_write _ := nofun
  read_dict hdict _ := by
    obtain ⟨entries, rfl⟩ := isDict_iff.mp hdict
    exact nofun

theorem toNumber_ofNumber (n : UInt64) : (Value.ofNumber n).toNumber = .ok n :=
  congrArg Except.ok UInt64.ofNat_toNat

theorem isScalar_number : library.IsScalar library.number where
  read_write := toNumber_ofNumber
  not_isDict_write _ := nofun
  read_dict hdict _ := by
    obtain ⟨entries, rfl⟩ := isDict_iff.mp hdict
    exact nofun

theorem isScalar_optionalNumber : library.IsScalar library.optionalNumber where
  read_write n := by
    cases n with
    | none => rfl
    | some n => exact congrArg (some <$> ·) (toNumber_ofNumber n)
  not_isDict_write n := by cases n <;> exact nofun
  read_dict hdict _ := by
    obtain ⟨entries, rfl⟩ := isDict_iff.mp hdict
    exact nofun

/-! ### Records -/

theorem mapError_eq_ok_iff {ε ε' α : Type} (f : ε → ε') (result : Except ε α) (a : α) :
    result.mapError f = .ok a ↔ result = .ok a := by
  cases result with
  | error failure => exact ⟨fun h => (by cases h), fun h => (by cases h)⟩
  | ok value => exact ⟨fun h => (by cases h; rfl), fun h => (by cases h; rfl)⟩

theorem readField_eq_ok_iff {α : Type} {field : Field Value Failure α} {key : String}
    {given : Option Value} {a : α} :
    readField field key given = .ok a ↔ field.Takes given a := by
  cases given with
  | none => exact ⟨fun h => (Except.ok.inj h).symm, fun h => congrArg Except.ok (Eq.symm h)⟩
  | some value => exact mapError_eq_ok_iff _ _ _

theorem readByKey_eq_ok_iff {τ : Type} (fields : Fields Value Failure τ) (r : τ) :
    readByKey entries fields = .ok r ↔ fields.Takes (fun key => entries.lookup key) r := by
  induction fields with
  | last field =>
      rw [Fields.Takes, ← readField_eq_ok_iff, readByKey]
      exact mapError_eq_ok_iff _ _ _
  | more field rest ih =>
      obtain ⟨a, b⟩ := r
      rw [Fields.Takes, ← readField_eq_ok_iff, ← ih, readByKey]
      cases readField field field.key (entries.lookup field.key) <;>
        cases readByKey entries rest <;> simp

theorem lookup_writeFields {τ : Type} (fields : Fields Value Failure τ) (r : τ) (key : String) :
    (writeFields fields r).lookup key = fields.written? r key := by
  induction fields with
  | last field =>
      rw [writeFields, Fields.written?, lookup_cons_eq_ite]
      rfl
  | more field rest ih =>
      obtain ⟨a, b⟩ := r
      rw [writeFields, Fields.written?, lookup_cons_eq_ite, ih]

/-! ### Names -/

theorem toLower_of_isBlank {c : Char} (hblank : Text.isBlank c = true) : c.toLower = c := by
  have hnot : ¬ (c.val ≥ 'A'.val ∧ c.val ≤ 'Z'.val) := by
    rintro ⟨hlow, hhigh⟩
    have hfrom : 65 ≤ c.toNat := UInt32.le_iff_toNat_le.mp hlow
    have hto : c.toNat ≤ 90 := UInt32.le_iff_toNat_le.mp hhigh
    simp only [Text.isBlank, Bool.or_eq_true, Bool.and_eq_true, decide_eq_true_eq, beq_iff_eq] at hblank
    omega
  exact dif_neg hnot

/-- Case is all that is lost of a name that has no blanks in lower case. -/
theorem path?_of_plainPath? {start mark name : String} {path : List String} {cs : List Char}
    (hname : name.toList.map Char.toLower = cs) (hcs : cs.any Text.isBlank = false)
    (hpath : Environment.plainPath? start mark cs = some path) :
    Environment.path? start mark name = some path := by
  have hblank (c : Char) (hc : c ∈ name.toList) : Text.isBlank c = false := by
    rw [Bool.eq_false_iff]
    intro hc'
    have hmem : c.toLower ∈ cs := hname ▸ List.mem_map_of_mem hc
    rw [toLower_of_isBlank hc'] at hmem
    exact List.any_eq_false.mp hcs c hmem hc'
  have htrim : Text.trimChars name.toList = name.toList :=
    Text.trimChars_of_surrounds ⟨[], [], nofun, nofun, (List.append_nil _).symm⟩ hblank
  rw [Environment.path?, htrim, hname, hpath]

theorem path?_of_isNameOf {path : List String} (hpath : path ∈ settingPaths) {name : String}
    (hname : IsNameOf path name) : Environment.path? nameStart keyMark name = some path := by
  have hplain : ∀ path ∈ settingPaths, (lowerName path).any Text.isBlank = false ∧
      Environment.plainPath? nameStart keyMark (lowerName path) = some path := by
    decide
  obtain ⟨hblank, hread⟩ := hplain path hpath
  exact path?_of_plainPath? hname hblank hread

theorem isLawful_library : library.IsLawful where
  entries?_empty := rfl
  entries?_single _ _ := rfl
  merge_dict hfirst hsecond := ⟨_, merge_dict hfirst hsecond, lookup_mergeEntries _ _⟩
  merge_other := merge_other
  path := isScalar_text .path
  text := isScalar_text .text
  number := isScalar_number
  optionalNumber := isScalar_optionalNumber
  readRecord hentries name fields r := by
    obtain ⟨entries, rfl⟩ := isDict_iff.mp (Option.isSome_of_eq_some hentries)
    cases hentries
    exact (mapError_eq_ok_iff _ _ _).trans (readByKey_eq_ok_iff fields r)
  writeRecord fields r := ⟨_, rfl, lookup_writeFields fields r⟩
  table?_of_parse hparse := by
    obtain ⟨entries, items, -, -, rfl⟩ := Toml.parse_eq_ok_iff.mp hparse
    rfl
  keys?_of_isNameOf := path?_of_isNameOf
  ofEnvironment _ _ _ := rfl

end DaqBus.External
