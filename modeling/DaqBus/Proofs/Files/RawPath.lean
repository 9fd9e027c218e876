import DaqBus.Files.Basic
import DaqBus.Files.Path
import DaqBus.Proofs.Text.Ascii
import DaqBus.Proofs.Text.Blank
import Mathlib.Tactic.SplitIfs

/-!
# Paths and their texts

A name that is added to a path is its last component, and the text of the longer path is that of the
shorter one with the name behind it.
-/

namespace DaqBus.RawPath

/-- A path that a further name can be added to: it does not end in a slash. -/
structure IsOpen (path : RawPath) : Prop where
  ne_nil : path ≠ []
  last : path.getLast? ≠ some slash

/-- A name that is a step of its own. -/
structure IsStep (name : Bytes) : Prop where
  ne_nil : name ≠ []
  no_slash : slash ∉ name

/-- A step that neither stays where it is nor goes up. -/
structure IsEntryName (name : Bytes) : Prop extends IsStep name where
  ne_here : name ≠ here
  ne_up : name ≠ up

/-- A path that a system call can be asked about. -/
structure IsAskable (path : RawPath) : Prop where
  no_zero : path.contains 0 = false
  length : path.length < FileSystem.pathLimit

variable {path base : RawPath} {name : Bytes} {s : String}

theorem isStep_iff : IsStep name ↔ name ≠ [] ∧ slash ∉ name :=
  ⟨fun h => ⟨h.ne_nil, h.no_slash⟩, fun h => ⟨h.1, h.2⟩⟩

theorem isEntryName_iff : IsEntryName name ↔ IsStep name ∧ name ≠ here ∧ name ≠ up :=
  ⟨fun h => ⟨h.toIsStep, h.ne_here, h.ne_up⟩, fun h => ⟨h.1, h.2.1, h.2.2⟩⟩

instance (name : Bytes) : Decidable (IsStep name) :=
  decidable_of_iff _ isStep_iff.symm

instance (name : Bytes) : Decidable (IsEntryName name) :=
  decidable_of_iff _ isEntryName_iff.symm

/-! ### Adding a name -/

theorem IsStep.not_isAbsolute (h : IsStep name) : isAbsolute name = false := by
  rw [isAbsolute, decide_eq_false_iff_not]
  intro hhead
  exact h.no_slash (List.mem_of_mem_head? hhead)

theorem IsOpen.join_eq (hpath : IsOpen path) (hname : IsStep name) :
    path.join name = path ++ slash :: name := by
  rw [join, hname.not_isAbsolute, if_neg (by simp [hpath.ne_nil]), if_neg hpath.last]

theorem IsOpen.length_join (hpath : IsOpen path) (hname : IsStep name) :
    (path.join name).length = path.length + name.length + 1 := by
  rw [hpath.join_eq hname, List.length_append, List.length_cons]
  omega

theorem IsStep.length_le_join (hname : IsStep name) (path : RawPath) :
    path.length ≤ (path.join name).length := by
  unfold join
  rw [hname.not_isAbsolute, Bool.false_or]
  split_ifs with hempty
  · rw [of_decide_eq_true hempty]
    exact Nat.zero_le _
  · rw [List.length_append]
    exact Nat.le_add_right _ _
  · rw [List.length_append]
    exact Nat.le_add_right _ _

theorem length_join_le (path : RawPath) (name : Bytes) :
    (path.join name).length ≤ path.length + name.length + 1 := by
  unfold join
  split
  · omega
  split
  · rw [List.length_append]
    omega
  · rw [List.length_append, List.length_cons]
    omega

/-- Adding a name makes a path that names can be added to. -/
theorem IsStep.isOpen_join (hname : IsStep name) (base : RawPath) : IsOpen (base.join name) := by
  obtain ⟨front, hend⟩ : ∃ front, base.join name = front ++ name := by
    unfold join
    split
    · exact ⟨[], rfl⟩
    split
    · exact ⟨base, rfl⟩
    · exact ⟨base ++ [slash], by simp⟩
  rw [hend]
  constructor
  · exact fun hnil => hname.ne_nil (List.append_eq_nil_iff.mp hnil).2
  · intro hlast
    have hsome := List.getLast?_eq_some_getLast hname.ne_nil
    rw [List.getLast?_append, hsome, Option.some_or] at hlast
    exact hname.no_slash (List.mem_of_getLast? (hsome.trans hlast))

theorem IsStep.pieces_eq (hname : IsStep name) : Text.pieces (· == slash) name = [name] :=
  Text.pieces_of_none fun b hb => by simpa using ne_of_mem_of_not_mem hb hname.no_slash

theorem components_join (hpath : IsOpen path) (hname : IsStep name) :
    (path.join name).components = path.components ++ [name] := by
  have hpieces : Text.pieces (· == slash) (path.join name) =
      Text.pieces (· == slash) path ++ [name] := by
    rw [hpath.join_eq hname, Text.pieces_append_cons _ (by decide), hname.pieces_eq]
  have hlast : (Text.pieces (· == slash) path).getLast? ≠ some [] := by
    cases hb : path.getLast? with
    | none => exact absurd (List.getLast?_eq_none_iff.mp hb) hpath.ne_nil
    | some b =>
        have hslash : b ≠ slash := fun h => hpath.last (h ▸ hb)
        exact Text.getLast?_pieces_ne_nil hb (by simpa using hslash)
  simp only [components, hpieces, List.filter_append, List.getLast?_concat]
  simp [hname.ne_nil, hlast]

theorem isAbsolute_join (hpath : IsOpen path) (hname : IsStep name) :
    (path.join name).isAbsolute = path.isAbsolute := by
  rw [isAbsolute, isAbsolute, hpath.join_eq hname, List.head?_append,
    List.head?_eq_some_head hpath.ne_nil, Option.some_or]

theorem isAskable_join_iff (hpath : IsOpen path) (hname : IsStep name) :
    IsAskable (path.join name) ↔ path.contains 0 = false ∧ name.contains 0 = false ∧
      path.length + name.length + 1 < FileSystem.pathLimit := by
  have hlength := hpath.length_join hname
  have hzero : (path.join name).contains 0 = (path.contains 0 || name.contains 0) := by
    rw [hpath.join_eq hname, List.contains_append, List.contains_cons]
    rfl
  constructor
  · rintro ⟨hnone, hshort⟩
    rw [hzero, Bool.or_eq_false_iff] at hnone
    exact ⟨hnone.1, hnone.2, by omega⟩
  · rintro ⟨hfront, hback, hshort⟩
    exact ⟨by rw [hzero, hfront, hback]; rfl, by omega⟩

theorem IsAskable.of_join (h : IsAskable (path.join name)) (hpath : IsOpen path)
    (hname : IsStep name) : IsAskable path := by
  obtain ⟨hzero, -, hlength⟩ := (isAskable_join_iff hpath hname).mp h
  exact ⟨hzero, by omega⟩

/-! ### Texts -/

theorem text_ofText (s : String) : text (ofText s) = s :=
  Text.Utf8.decode_encode s

theorem ofText_injective {s t : String} (h : ofText s = ofText t) : s = t :=
  Text.Utf8.encode_injective h

theorem ofText_eq_nil_iff : ofText s = [] ↔ s = "" := by
  constructor
  · exact fun h => ofText_injective (h.trans (by decide))
  · rintro rfl
    decide

theorem slash_mem_ofText_iff : slash ∈ ofText s ↔ '/' ∈ s.toList :=
  Text.Utf8.mem_encode_iff (by decide)

theorem isStep_ofText_iff : IsStep (ofText s) ↔ s ≠ "" ∧ '/' ∉ s.toList := by
  rw [isStep_iff, slash_mem_ofText_iff, Ne, ofText_eq_nil_iff]

theorem isEntryName_ofText_iff :
    IsEntryName (ofText s) ↔ s ≠ "" ∧ '/' ∉ s.toList ∧ s ≠ "." ∧ s ≠ ".." := by
  have hhere : ofText s ≠ here ↔ s ≠ "." :=
    not_congr ⟨fun h => ofText_injective (h.trans (by decide)), by rintro rfl; decide⟩
  have hup : ofText s ≠ up ↔ s ≠ ".." :=
    not_congr ⟨fun h => ofText_injective (h.trans (by decide)), by rintro rfl; decide⟩
  rw [isEntryName_iff, isStep_ofText_iff, hhere, hup, and_assoc]

theorem toList_text (path : RawPath) : path.text.toList = Text.Utf8.decodeChars path :=
  String.toList_ofList

theorem text_append_slash (front back : Bytes) :
    text (front ++ slash :: back) = text front ++ text (slash :: back) :=
  Text.Utf8.decode_append_cons front (by decide) back

theorem text_slash_cons (back : Bytes) : text (slash :: back) = "/" ++ text back := by
  apply String.toList_injective
  rw [toList_text, String.toList_append, toList_text, Text.Utf8.decodeChars_cons_of_lt (by decide)]
  rfl

theorem text_eq_empty_iff : path.text = "" ↔ path = [] := by
  rw [← String.toList_eq_nil_iff, toList_text, Text.Utf8.decodeChars_eq_nil_iff]

theorem getLast?_text_eq_slash_iff :
    path.text.toList.getLast? = some '/' ↔ path.getLast? = some slash := by
  rw [toList_text]
  exact Text.Utf8.getLast?_decodeChars_eq_slash_iff

theorem isAbsolute_ofText (s : String) : isAbsolute (ofText s) = Path.isAbsolute s := by
  rw [isAbsolute, Path.isAbsolute, decide_eq_decide]
  constructor
  · intro hhead
    obtain ⟨rest, hbytes⟩ := List.head?_eq_some_iff.mp hhead
    rw [← text_ofText s, hbytes, text_slash_cons, String.toList_append]
    rfl
  · intro hhead
    obtain ⟨rest, hchars⟩ := List.head?_eq_some_iff.mp hhead
    rw [ofText, Text.Utf8.encode, hchars]
    rfl

/-- **The text of an entry's path** is the text of the directory's with the name behind it. -/
theorem text_entry (base : RawPath) (hname : Path.isAbsolute s = false) :
    (base.entry s).text = Path.join base.text s := by
  have hraw : isAbsolute (ofText s) = false := (isAbsolute_ofText s).trans hname
  rw [entry, join, Path.join, hname, hraw]
  by_cases hempty : base = []
  · rw [if_pos (by simp [hempty]), if_pos (by simp [text_eq_empty_iff.mpr hempty]), text_ofText]
  have htext : base.text ≠ "" := text_eq_empty_iff.not.mpr hempty
  simp only [hempty, htext, Bool.false_or, decide_false, Bool.false_eq_true, if_false]
  by_cases hlast : base.getLast? = some slash
  · rw [if_pos hlast, if_pos (getLast?_text_eq_slash_iff.mpr hlast)]
    obtain ⟨front, rfl⟩ := List.getLast?_eq_some_iff.mp hlast
    rw [List.append_assoc]
    show text (front ++ slash :: ofText s) = _
    have hnil : text [] = "" := text_eq_empty_iff.mpr rfl
    rw [text_append_slash, text_append_slash, text_slash_cons, text_slash_cons, text_ofText, hnil,
      String.append_empty, String.append_assoc]
  · rw [if_neg hlast, if_neg (getLast?_text_eq_slash_iff.not.mpr hlast), text_append_slash,
      text_slash_cons, text_ofText, String.append_assoc]

/-- In a directory whose path is that of a text, so is the path of an entry. -/
theorem ofText_text_entry (hpath : IsOpen path) (hname : IsStep (ofText s))
    (htext : ofText path.text = path) : ofText (path.entry s).text = path.entry s := by
  have hentry : path.entry s = ofText (path.text ++ ("/" ++ s)) := by
    have happend : ofText (path.text ++ ("/" ++ s)) = ofText path.text ++ (ofText "/" ++ ofText s) := by
      simp only [ofText, Text.Utf8.encode_append]
    rw [entry, hpath.join_eq hname, happend, htext]
    rfl
  rw [hentry, text_ofText]

/-- No other name gives an entry of the same directory the same text. -/
theorem text_entry_injective {t : String} (hs : Path.isAbsolute s = false)
    (ht : Path.isAbsolute t = false) (h : (base.entry s).text = (base.entry t).text) : s = t := by
  rw [text_entry base hs, text_entry base ht] at h
  unfold Path.join at h
  rw [hs, ht] at h
  apply String.toList_injective
  split_ifs at h
  · exact congrArg String.toList h
  · have hlists := congrArg String.toList h
    simpa only [String.toList_append, List.append_cancel_left_eq] using hlists
  · have hlists := congrArg String.toList h
    simpa only [String.toList_append, List.append_cancel_left_eq] using hlists

end DaqBus.RawPath
