import DaqBus.Text.Blank

/-!
# Blanks around and between

Trimming takes away the blanks around a text and nothing else. The fields of a text are its words, which
are the stretches between blanks.
-/

namespace DaqBus.Text

variable {p : Char → Bool} {c : Char} {cs text core back : List Char}

/-! ### Cutting off the end -/

theorem trimRightWhile_of_getLast? (h : ∀ c ∈ cs.getLast?, p c = false) :
    trimRightWhile p cs = cs := by
  rw [← List.head?_reverse] at h
  rw [trimRightWhile]
  cases hcs : cs.reverse with
  | nil =>
      rw [List.reverse_eq_nil_iff.mp hcs]
      rfl
  | cons last front =>
      rw [hcs] at h
      rw [List.dropWhile_cons_of_neg (by simp [h last rfl]), ← hcs, List.reverse_reverse]

theorem trimRightWhile_append (h : ∀ c ∈ back, p c = true) (cs : List Char) :
    trimRightWhile p (cs ++ back) = trimRightWhile p cs := by
  have hback : ∀ c ∈ back.reverse, p c = true := fun c hc => h c (List.mem_reverse.mp hc)
  rw [trimRightWhile, List.reverse_append, List.dropWhile_append_of_pos hback, trimRightWhile]

theorem exists_trimRightWhile_append (p : Char → Bool) (cs : List Char) :
    ∃ back, (∀ c ∈ back, p c = true) ∧ cs = trimRightWhile p cs ++ back := by
  refine ⟨(cs.reverse.takeWhile p).reverse, ?_, ?_⟩
  · intro c hc
    exact List.all_eq_true.mp List.all_takeWhile c (List.mem_reverse.mp hc)
  · rw [trimRightWhile, ← List.reverse_append, List.takeWhile_append_dropWhile, List.reverse_reverse]

theorem trimNewlines_of_getLast? {s : String} (h : s.toList.getLast? ≠ some '\n') :
    trimNewlines s = s := by
  have hlast : ∀ c ∈ s.toList.getLast?, (c == '\n') = false := by
    rintro c hc
    rw [beq_eq_false_iff_ne]
    rintro rfl
    exact h hc
  rw [trimNewlines, trimRightWhile_of_getLast? hlast, String.ofList_toList]

theorem trimNewlines_append_newline {s : String} (h : s.toList.getLast? ≠ some '\n') :
    trimNewlines (s ++ "\n") = s := by
  have hlist : (s ++ "\n").toList = s.toList ++ ['\n'] := String.toList_append
  have hfeed : ∀ c ∈ ['\n'], (c == '\n') = true := List.forall_mem_singleton.mpr (beq_self_eq_true _)
  rw [trimNewlines, hlist, trimRightWhile_append hfeed]
  exact trimNewlines_of_getLast? h

/-! ### Trimming -/

def AllBlank (cs : List Char) : Prop := ∀ c ∈ cs, isBlank c = true

instance (cs : List Char) : Decidable (AllBlank cs) :=
  List.decidableBAll (fun c => isBlank c = true) cs

/-- The text is a core with blanks before and after it. -/
def Surrounds (text core : List Char) : Prop :=
  ∃ front back, AllBlank front ∧ AllBlank back ∧ text = front ++ core ++ back

theorem dropWhile_isBlank (h : AllBlank back) : back.dropWhile isBlank = [] := by
  rw [← List.append_nil back, List.dropWhile_append_of_pos h]
  rfl

theorem surrounds_trimChars (text : List Char) : Surrounds text (trimChars text) := by
  obtain ⟨back, hback, hcut⟩ := exists_trimRightWhile_append isBlank (text.dropWhile isBlank)
  refine ⟨text.takeWhile isBlank, back, ?_, hback, ?_⟩
  · exact List.all_eq_true.mp List.all_takeWhile
  · rw [List.append_assoc, trimChars, ← hcut, List.takeWhile_append_dropWhile]

theorem trimChars_append (h : AllBlank back) (cs : List Char) :
    trimChars (cs ++ back) = trimChars cs := by
  rw [trimChars, trimChars, List.dropWhile_append]
  split
  next hblank => rw [dropWhile_isBlank h, List.isEmpty_iff.mp hblank]
  next => exact trimRightWhile_append h _

/-- No blank at either end. -/
def IsTrimmed (cs : List Char) : Prop :=
  (∀ c ∈ cs.head?, isBlank c = false) ∧ ∀ c ∈ cs.getLast?, isBlank c = false

instance (cs : List Char) : Decidable (IsTrimmed cs) :=
  decidable_of_iff (cs.head?.all (!isBlank ·) ∧ cs.getLast?.all (!isBlank ·)) (by
    simp [IsTrimmed, Option.all_eq_true])

theorem isTrimmed_of_no_blank (h : ∀ c ∈ cs, isBlank c = false) : IsTrimmed cs :=
  ⟨fun c hc => h c (List.mem_of_mem_head? hc), fun c hc => h c (List.mem_of_getLast? hc)⟩

theorem trimChars_of_isTrimmed (h : Surrounds text core) (hcore : IsTrimmed core) :
    trimChars text = core := by
  obtain ⟨front, back, hfront, hback, rfl⟩ := h
  have hkept : core.dropWhile isBlank = core := by
    cases core with
    | nil => rfl
    | cons c core => rw [List.dropWhile_cons_of_neg (by simp [hcore.1 c rfl])]
  rw [trimChars_append hback, trimChars, List.dropWhile_append_of_pos hfront, hkept,
    trimRightWhile_of_getLast? hcore.2]

theorem trimChars_of_surrounds (h : Surrounds text core) (hcore : ∀ c ∈ core, isBlank c = false) :
    trimChars text = core :=
  trimChars_of_isTrimmed h (isTrimmed_of_no_blank hcore)

theorem isTrimmed_trimChars (text : List Char) : IsTrimmed (trimChars text) := by
  obtain ⟨back, -, hcut⟩ := exists_trimRightWhile_append isBlank (text.dropWhile isBlank)
  constructor
  · intro c hc
    have hfirst : (text.dropWhile isBlank).head? = some c := by
      rw [hcut, List.head?_append, ← trimChars, hc, Option.some_or]
    have hnot := List.head?_dropWhile_not isBlank text
    rw [hfirst] at hnot
    exact hnot
  · intro c hc
    rw [trimChars, trimRightWhile, List.getLast?_reverse] at hc
    have hnot := List.head?_dropWhile_not isBlank (text.dropWhile isBlank).reverse
    rw [hc] at hnot
    exact hnot

/-- Trimming leaves the one core of a text that has no blanks at its ends. -/
theorem trimChars_eq_iff : trimChars text = core ↔ Surrounds text core ∧ IsTrimmed core := by
  constructor
  · rintro rfl
    exact ⟨surrounds_trimChars text, isTrimmed_trimChars text⟩
  · exact fun h => trimChars_of_isTrimmed h.1 h.2

theorem trim_of_no_blank {s : String} (h : ∀ c ∈ s.toList, isBlank c = false) : trim s = s := by
  have hself : Surrounds s.toList s.toList :=
    ⟨[], [], List.forall_mem_nil _, List.forall_mem_nil _, (List.append_nil _).symm⟩
  rw [trim, trimChars_of_surrounds hself h, String.ofList_toList]

/-- The line feeds at the end of a text are blanks after it. -/
theorem exists_trimNewlines_append (s : String) :
    ∃ feeds, AllBlank feeds ∧ s.toList = (trimNewlines s).toList ++ feeds := by
  obtain ⟨feeds, hfeeds, hcut⟩ := exists_trimRightWhile_append (· == '\n') s.toList
  refine ⟨feeds, ?_, ?_⟩
  · intro c hc
    rw [beq_iff_eq.mp (hfeeds c hc)]
    decide
  · rw [trimNewlines, String.toList_ofList]
    exact hcut

theorem trim_trimNewlines (s : String) : trim (trimNewlines s) = trim s := by
  obtain ⟨feeds, hfeeds, hcut⟩ := exists_trimNewlines_append s
  rw [trim, trim, hcut, trimChars_append hfeeds]

/-! ### Pieces -/

section Pieces

variable {α : Type} {p : α → Bool} {c : α} {cs : List α}

theorem pieces_ne_nil (cs : List α) : pieces p cs ≠ [] := by
  cases cs with
  | nil => nofun
  | cons c cs =>
      rw [pieces]
      split <;> nofun

theorem pieces_append_cons (front : List α) (hc : p c = true) (back : List α) :
    pieces p (front ++ c :: back) = pieces p front ++ pieces p back := by
  induction front with
  | nil =>
      show pieces p (c :: back) = [] :: pieces p back
      rw [pieces, hc]
  | cons d front ih =>
      show pieces p (d :: (front ++ c :: back)) = _
      rw [pieces, pieces, ih]
      cases hd : p d with
      | true => rfl
      | false =>
          cases hfront : pieces p front with
          | nil => exact absurd hfront (pieces_ne_nil front)
          | cons piece rest => rfl

theorem pieces_of_none (h : ∀ c ∈ cs, p c = false) : pieces p cs = [cs] := by
  induction cs with
  | nil => rfl
  | cons c cs ih =>
      rw [pieces, h c List.mem_cons_self, ih fun d hd => h d (List.mem_cons_of_mem c hd)]

/-- Only a separator at the end leaves an empty piece there. -/
theorem getLast?_pieces_ne_nil {last : α} (hlast : cs.getLast? = some last)
    (hkept : p last = false) : (pieces p cs).getLast? ≠ some [] := by
  induction cs with
  | nil => cases hlast
  | cons c cs ih =>
      cases cs with
      | nil =>
          cases hlast
          rw [pieces_of_none (by simpa using hkept)]
          nofun
      | cons d cs =>
          rw [List.getLast?_cons_cons] at hlast
          have hrest := ih hlast
          rw [pieces]
          cases hpieces : pieces p (d :: cs) with
          | nil => exact absurd hpieces (pieces_ne_nil _)
          | cons piece rest =>
              rw [hpieces] at hrest
              cases p c with
              | true =>
                  show ([] :: piece :: rest).getLast? ≠ _
                  rw [List.getLast?_cons_cons]
                  exact hrest
              | false =>
                  show ((c :: piece) :: rest).getLast? ≠ _
                  cases rest with
                  | nil => nofun
                  | cons next rest =>
                      rw [List.getLast?_cons_cons] at hrest ⊢
                      exact hrest

end Pieces

/-! ### Words -/

/-- The words of a text, in order. A word ends where the text does or where a blank follows. -/
inductive Words : List Char → List (List Char) → Prop
  | none {blanks : List Char} (hblanks : AllBlank blanks) : Words blanks []
  | some {blanks word rest : List Char} {words : List (List Char)} (hblanks : AllBlank blanks)
      (hne : word ≠ []) (hword : ∀ c ∈ word, isBlank c = false)
      (hend : ∀ c ∈ rest.head?, isBlank c = true) (hrest : Words rest words) :
      Words (blanks ++ (word ++ rest)) (word :: words)

variable {words : List (List Char)}

theorem filter_pieces_append (h : AllBlank back) (cs : List Char) :
    (pieces isBlank (back ++ cs)).filter (· ≠ []) = (pieces isBlank cs).filter (· ≠ []) := by
  induction back with
  | nil => rfl
  | cons c back ih =>
      obtain ⟨hc, hback⟩ := List.forall_mem_cons.mp h
      rw [List.cons_append, pieces, hc]
      exact ih hback

theorem Words.filter_pieces (h : Words text words) :
    (pieces isBlank text).filter (· ≠ []) = words := by
  induction h with
  | @none blanks hblanks =>
      rw [← List.append_nil blanks, filter_pieces_append hblanks]
      rfl
  | @some blanks word rest words hblanks hne hword hend hrest ih =>
      rw [filter_pieces_append hblanks]
      cases rest with
      | nil =>
          rw [List.append_nil, pieces_of_none hword, ← ih]
          simp [hne, pieces]
      | cons c rest =>
          have hc : isBlank c = true := hend c rfl
          rw [pieces, hc] at ih
          rw [pieces_append_cons _ hc, pieces_of_none hword, ← ih]
          simp [hne]

/-- One more character in front begins a word, lengthens the first word or is one more blank. -/
theorem Words.exists_cons (h : Words text words) (c : Char) : ∃ more, Words (c :: text) more := by
  have hnil : AllBlank [] := List.forall_mem_nil _
  cases hc : isBlank c with
  | true =>
      cases h with
      | none hblanks => exact ⟨_, .none (List.forall_mem_cons.mpr ⟨hc, hblanks⟩)⟩
      | some hblanks hne hword hend hrest =>
          exact ⟨_, .some (List.forall_mem_cons.mpr ⟨hc, hblanks⟩) hne hword hend hrest⟩
  | false =>
      have hone : ∀ d ∈ [c], isBlank d = false := List.forall_mem_singleton.mpr hc
      cases h with
      | none hblanks =>
          exact ⟨_, .some hnil (List.cons_ne_nil c []) hone
            (fun d hd => hblanks d (List.mem_of_mem_head? hd)) (.none hblanks)⟩
      | @some blanks word rest words hblanks hne hword hend hrest =>
          cases blanks with
          | nil =>
              exact ⟨_, .some hnil (List.cons_ne_nil c word)
                (List.forall_mem_cons.mpr ⟨hc, hword⟩) hend hrest⟩
          | cons blank blanks =>
              have hblank : isBlank blank = true := hblanks blank List.mem_cons_self
              exact ⟨_, .some hnil (List.cons_ne_nil c []) hone
                (by rintro d ⟨⟩; exact hblank) (.some hblanks hne hword hend hrest)⟩

theorem exists_words (text : List Char) : ∃ words, Words text words := by
  induction text with
  | nil => exact ⟨[], .none (List.forall_mem_nil _)⟩
  | cons c text ih =>
      obtain ⟨words, hwords⟩ := ih
      exact hwords.exists_cons c

/-- **The fields of a text are its words.** -/
theorem words_iff {s : String} : Words s.toList words ↔ (fields s).map String.toList = words := by
  have hfields : (fields s).map String.toList =
      (pieces isBlank s.toList).filter (· ≠ []) := by
    rw [fields, List.map_map]
    exact List.map_id'' (fun cs => String.toList_ofList) _
  rw [hfields]
  constructor
  · exact Words.filter_pieces
  · rintro rfl
    obtain ⟨words, hwords⟩ := exists_words s.toList
    rwa [hwords.filter_pieces]

theorem Words.append (h : Words text words) (hback : AllBlank back) : Words (text ++ back) words := by
  induction h with
  | none hblanks =>
      exact .none fun c hc => (List.mem_append.mp hc).elim (hblanks c) (hback c)
  | @some blanks word rest words hblanks hne hword hend hrest ih =>
      rw [List.append_assoc, List.append_assoc]
      refine .some hblanks hne hword ?_ ih
      intro c hc
      cases rest with
      | nil => exact hback c (List.mem_of_mem_head? hc)
      | cons d rest => exact hend c hc

theorem words_of_trimNewlines {s : String} (h : Words (trimNewlines s).toList words) :
    Words s.toList words := by
  obtain ⟨feeds, hfeeds, hcut⟩ := exists_trimNewlines_append s
  rw [hcut]
  exact h.append hfeeds

end DaqBus.Text
