import DaqBus.Proofs.Text.Blank

/-!
# Names on lines

The lines of a text are what stands between its line feeds. A line that is not blank names what is left
of it without the blanks around it, and so names that are written on lines of their own come back.
-/

namespace DaqBus.Text

variable {text front line name : List Char} {lines names : List (List Char)}

/-! ### Lines -/

/-- The lines are those of the text: joined by line feeds they are the text again. -/
structure IsLines (text : List Char) (lines : List (List Char)) : Prop where
  ne_nil : lines ≠ []
  no_feed : ∀ line ∈ lines, '\n' ∉ line
  joined : text = ['\n'].intercalate lines

/-- The pieces of a text between line feeds. -/
def linesOf (text : List Char) : List (List Char) :=
  pieces (· == '\n') text

theorem linesOf_append_feed (front back : List Char) :
    linesOf (front ++ '\n' :: back) = linesOf front ++ linesOf back := by
  apply pieces_append_cons
  exact beq_self_eq_true '\n'

theorem linesOf_of_not_mem (h : '\n' ∉ line) : linesOf line = [line] :=
  pieces_of_none fun _ hc => beq_eq_false_iff_ne.mpr (ne_of_mem_of_not_mem hc h)

theorem IsLines.linesOf_eq (h : IsLines text lines) : linesOf text = lines := by
  obtain ⟨hne, hfeeds, rfl⟩ := h
  induction lines with
  | nil => exact absurd rfl hne
  | cons line lines ih =>
      have hline := linesOf_of_not_mem (hfeeds line List.mem_cons_self)
      cases lines with
      | nil =>
          rw [List.intercalate_singleton]
          exact hline
      | cons next lines =>
          have hlater := ih (List.cons_ne_nil next lines) fun other hother =>
            hfeeds other (List.mem_cons_of_mem line hother)
          rw [List.intercalate_cons_cons, List.append_assoc, List.singleton_append,
            linesOf_append_feed, hline, hlater]
          rfl

theorem isLines_linesOf (text : List Char) : IsLines text (linesOf text) := by
  induction text with
  | nil => exact ⟨by decide, by decide, rfl⟩
  | cons c text ih =>
      obtain ⟨hne, hfeeds, hjoined⟩ := ih
      obtain ⟨line, lines, hlines⟩ := List.exists_cons_of_ne_nil hne
      rw [hlines] at hfeeds hjoined
      cases hc : c == '\n' with
      | true =>
          have hnext : linesOf (c :: text) = [] :: line :: lines := by
            rw [linesOf, pieces, hc, ← linesOf, hlines]
          rw [hnext]
          refine ⟨List.cons_ne_nil _ _, List.forall_mem_cons.mpr ⟨List.not_mem_nil, hfeeds⟩, ?_⟩
          rw [List.intercalate_cons_cons, ← hjoined, beq_iff_eq.mp hc]
          rfl
      | false =>
          have hnext : linesOf (c :: text) = (c :: line) :: lines := by
            rw [linesOf, pieces, hc, ← linesOf, hlines]
          obtain ⟨hline, hlater⟩ := List.forall_mem_cons.mp hfeeds
          have hlonger : '\n' ∉ c :: line :=
            List.not_mem_cons_of_ne_of_not_mem (beq_eq_false_iff_ne.mp hc).symm hline
          rw [hnext]
          refine ⟨List.cons_ne_nil _ _, List.forall_mem_cons.mpr ⟨hlonger, hlater⟩, ?_⟩
          cases lines with
          | nil => rw [hjoined, List.intercalate_singleton, List.intercalate_singleton]
          | cons next lines =>
              rw [hjoined, List.intercalate_cons_cons, List.intercalate_cons_cons]
              rfl

theorem isLines_iff : IsLines text lines ↔ linesOf text = lines :=
  ⟨IsLines.linesOf_eq, fun h => h ▸ isLines_linesOf text⟩

/-! ### What lines name -/

/-- The names on lines, in order. A blank line has none. -/
inductive Names : List (List Char) → List (List Char) → Prop
  | nil : Names [] []
  | blank {line : List Char} {lines names : List (List Char)} (hblank : AllBlank line)
      (hrest : Names lines names) : Names (line :: lines) names
  | name {line name : List Char} {lines names : List (List Char)} (hname : Surrounds line name)
      (htrimmed : IsTrimmed name) (hne : name ≠ []) (hrest : Names lines names) :
      Names (line :: lines) (name :: names)

theorem trimChars_eq_nil_iff : trimChars line = [] ↔ AllBlank line := by
  rw [trimChars_eq_iff]
  constructor
  · rintro ⟨⟨front, back, hfront, hback, rfl⟩, -⟩
    rw [List.append_nil]
    exact List.forall_mem_append.mpr ⟨hfront, hback⟩
  · intro hblank
    exact ⟨⟨line, [], hblank, List.forall_mem_nil _, by simp⟩, by decide⟩

theorem names_iff : Names lines names ↔ (lines.map trimChars).filter (· ≠ []) = names := by
  constructor
  · intro h
    induction h with
    | nil => rfl
    | blank hblank _ ih =>
        rw [List.map_cons, trimChars_eq_nil_iff.mpr hblank, List.filter_cons_of_neg (by simp), ih]
    | name hname htrimmed hne _ ih =>
        rw [List.map_cons, trimChars_of_isTrimmed hname htrimmed,
          List.filter_cons_of_pos (by simpa using hne), ih]
  · rintro rfl
    induction lines with
    | nil => exact .nil
    | cons line lines ih =>
        rw [List.map_cons]
        by_cases hblank : trimChars line = []
        · rw [List.filter_cons_of_neg (by simpa using hblank)]
          exact .blank (trimChars_eq_nil_iff.mp hblank) ih
        · rw [List.filter_cons_of_pos (by simpa using hblank)]
          exact .name (surrounds_trimChars line) (isTrimmed_trimChars line) hblank ih

theorem Names.isTrimmed (h : Names lines names) {name : List Char} (hmem : name ∈ names) :
    IsTrimmed name ∧ name ≠ [] := by
  induction h with
  | nil => cases hmem
  | blank _ _ ih => exact ih hmem
  | name _ htrimmed hne _ ih =>
      rcases List.mem_cons.mp hmem with rfl | hlater
      · exact ⟨htrimmed, hne⟩
      · exact ih hlater

/-! ### Names of a text -/

def namesOf (text : List Char) : List (List Char) :=
  ((linesOf text).map trimChars).filter (· ≠ [])

theorem exists_isLines_names_iff :
    (∃ lines, IsLines text lines ∧ Names lines names) ↔ namesOf text = names := by
  simp only [isLines_iff, exists_eq_left', names_iff]
  rfl

theorem namesOf_append_feed (front back : List Char) :
    namesOf (front ++ '\n' :: back) = namesOf front ++ namesOf back := by
  rw [namesOf, linesOf_append_feed, List.map_append, List.filter_append]
  rfl

/-- Line feeds at the end add no name. -/
theorem namesOf_append_feeds {feeds : List Char} (h : ∀ c ∈ feeds, c = '\n') (front : List Char) :
    namesOf (front ++ feeds) = namesOf front := by
  induction feeds generalizing front with
  | nil => rw [List.append_nil]
  | cons c feeds ih =>
      obtain ⟨rfl, hfeeds⟩ := List.forall_mem_cons.mp h
      have hnone : namesOf feeds = [] := ih hfeeds []
      rw [namesOf_append_feed, hnone, List.append_nil]

theorem namesOf_line (hline : '\n' ∉ line) (hname : Surrounds line name) (htrimmed : IsTrimmed name)
    (hne : name ≠ []) : namesOf line = [name] := by
  rw [namesOf, linesOf_of_not_mem hline, List.map_singleton, trimChars_of_isTrimmed hname htrimmed,
    List.filter_cons_of_pos (by simpa using hne)]
  rfl

/-- A name that can stand on a line. -/
structure IsLineName (name : List Char) : Prop where
  ne_nil : name ≠ []
  no_feed : '\n' ∉ name
  trimmed : IsTrimmed name

/-- What may stand between a name and the line feed behind it. -/
structure IsReturn (back : List Char) : Prop where
  blank : AllBlank back
  no_feed : '\n' ∉ back

theorem IsLineName.namesOf_append (h : IsLineName name) {back : List Char} (hback : IsReturn back) :
    namesOf (name ++ back) = [name] :=
  namesOf_line (fun hmem => (List.mem_append.mp hmem).elim h.no_feed hback.no_feed)
    ⟨[], back, List.forall_mem_nil _, hback.blank, rfl⟩ h.trimmed h.ne_nil

/-- **Names on lines of their own come back**, whatever ends the last line. -/
theorem namesOf_joined (hne : names ≠ []) (hnames : ∀ name ∈ names, IsLineName name)
    {ending last feeds : List Char} (hending : IsReturn ending) (hlast : IsReturn last)
    (hfeeds : ∀ c ∈ feeds, c = '\n') :
    namesOf ((ending ++ ['\n']).intercalate names ++ (last ++ feeds)) = names := by
  induction names with
  | nil => exact absurd rfl hne
  | cons name names ih =>
      obtain ⟨hname, hlater⟩ := List.forall_mem_cons.mp hnames
      cases names with
      | nil =>
          rw [List.intercalate_singleton, ← List.append_assoc, namesOf_append_feeds hfeeds,
            hname.namesOf_append hlast]
      | cons next names =>
          have hcut : (ending ++ ['\n']).intercalate (name :: next :: names) ++ (last ++ feeds) =
              (name ++ ending) ++
                '\n' :: ((ending ++ ['\n']).intercalate (next :: names) ++ (last ++ feeds)) := by
            simp [List.intercalate_cons_cons]
          rw [hcut, namesOf_append_feed, hname.namesOf_append hending,
            ih (List.cons_ne_nil next names) hlater]
          rfl

/-! ### Lines as they are read -/

/-- A carriage return before a line feed is a blank at the end of its line. -/
theorem trimChars_dropReturn (line : List Char) : trimChars (dropReturn line) = trimChars line := by
  unfold dropReturn
  split
  next hlast =>
    have hreturn : AllBlank ['\r'] := by decide
    obtain ⟨front, rfl⟩ := List.getLast?_eq_some_iff.mp hlast
    rw [List.dropLast_concat, trimChars_append hreturn]
  next => rfl

theorem namesOf_trimNewlines (s : String) : namesOf (trimNewlines s).toList = namesOf s.toList := by
  obtain ⟨feeds, hfeeds, hcut⟩ := exists_trimRightWhile_append (· == '\n') s.toList
  have hfeed : ∀ c ∈ feeds, c = '\n' := fun c hc => beq_iff_eq.mp (hfeeds c hc)
  rw [trimNewlines, String.toList_ofList]
  exact (namesOf_append_feeds hfeed _).symm.trans (congrArg namesOf hcut.symm)

theorem map_toList_trim (strings : List String) :
    ((strings.map trim).filter (· ≠ "")).map String.toList =
      ((strings.map String.toList).map trimChars).filter (· ≠ []) := by
  induction strings with
  | nil => rfl
  | cons s strings ih =>
      have hempty : trim s = "" ↔ trimChars s.toList = [] := by
        rw [← String.toList_eq_nil_iff, trim, String.toList_ofList]
      rw [List.map_cons, List.map_cons, List.map_cons]
      by_cases hs : trim s = ""
      · rw [List.filter_cons_of_neg (by simpa using hs),
          List.filter_cons_of_neg (by simpa using hempty.mp hs), ih]
      · rw [List.filter_cons_of_pos (by simpa using hs),
          List.filter_cons_of_pos (by simpa using fun h => hs (hempty.mpr h)), List.map_cons, ih,
          trim, String.toList_ofList]

/-- The last line is left out if it is empty, and then it has no name. -/
theorem map_toList_trim_lines (s : String) :
    (((Text.lines s).map trim).filter (· ≠ "")).map String.toList = namesOf s.toList := by
  obtain ⟨front, last, hlines⟩ : ∃ front last, linesOf s.toList = front ++ [last] :=
    ⟨_, _, (List.dropLast_concat_getLast (isLines_linesOf s.toList).ne_nil).symm⟩
  have hreturns : (front.map dropReturn).map trimChars = front.map trimChars := by
    rw [List.map_map]
    exact List.map_congr_left fun line _ => trimChars_dropReturn line
  have hread : Text.lines s = (if last = [] then front.map dropReturn
      else front.map dropReturn ++ [last]).map String.ofList := by
    rw [Text.lines, ← linesOf, hlines, List.dropLast_concat, List.getLast?_concat, Option.getD_some]
  have hchars (cut : List (List Char)) : (cut.map String.ofList).map String.toList = cut := by
    rw [List.map_map]
    exact List.map_id'' (fun _ => String.toList_ofList) cut
  rw [map_toList_trim, hread, hchars, namesOf, hlines, List.map_append, ← hreturns]
  by_cases hlast : last = []
  · have hnone : (([last] : List (List Char)).map trimChars).filter (· ≠ []) = [] := by
      rw [hlast]
      rfl
    rw [if_pos hlast, List.filter_append, hnone, List.append_nil]
  · rw [if_neg hlast, List.map_append]

end DaqBus.Text
