import DaqBus.Proofs.Text.Blank
import DaqBus.Text.Literal

/-!
# Numbers as text

A numeral consists of digits, with or without a plus sign in front, and stands for the number that the
digits spell. The readers accept the numerals below their bound, with blanks around them where these are
trimmed, and nothing else. A printed number is a numeral without a sign. So it comes through every trimming
as it is, and is read as the number it was. A number in hexadecimal is read as the number it was, too.
-/

namespace DaqBus.Text

variable {c : Char} {cs numeral text : List Char} {bound m n : Nat}

/-! ### Digits -/

theorem isDigit_iff : c.isDigit = true ↔ '0'.toNat ≤ c.toNat ∧ c.toNat ≤ '9'.toNat := by
  simp only [Char.isDigit, Bool.and_eq_true, decide_eq_true_eq]
  rfl

theorem isBlank_of_isDigit (h : c.isDigit = true) : isBlank c = false := by
  have hbounds : 48 ≤ c.toNat ∧ c.toNat ≤ 57 := isDigit_iff.mp h
  simp only [isBlank, Bool.or_eq_false_iff, Bool.and_eq_false_iff, beq_eq_false_iff_ne, ne_eq,
    decide_eq_false_iff_not]
  omega

theorem digitValue?_of_isDigit (h : c.isDigit = true) :
    digitValue? c = some (c.toNat - '0'.toNat) :=
  if_pos (isDigit_iff.mp h)

theorem digitValue?_of_not_isDigit (h : c.isDigit = false) : digitValue? c = none := by
  refine if_neg fun hbounds => ?_
  rw [isDigit_iff.mpr hbounds] at h
  cases h

theorem foldlM_digits (hdigits : ∀ c ∈ cs, c.isDigit = true) (acc : Nat) :
    cs.foldlM (fun acc c => (digitValue? c).map (acc * 10 + ·)) acc =
      some (Nat.ofDigitChars 10 cs acc) := by
  induction cs generalizing acc with
  | nil => rfl
  | cons c cs ih =>
      rw [List.foldlM_cons, digitValue?_of_isDigit (hdigits c List.mem_cons_self), Nat.ofDigitChars_cons,
        Nat.mul_comm 10 acc]
      exact ih (fun d hd => hdigits d (List.mem_cons_of_mem c hd)) _

theorem isDigit_of_foldlM {acc : Nat}
    (h : cs.foldlM (fun acc c => (digitValue? c).map (acc * 10 + ·)) acc = some n) :
    ∀ c ∈ cs, c.isDigit = true := by
  induction cs generalizing acc with
  | nil => exact List.forall_mem_nil _
  | cons c cs ih =>
      rw [List.foldlM_cons] at h
      cases hdigit : c.isDigit with
      | false =>
          rw [digitValue?_of_not_isDigit hdigit] at h
          cases h
      | true =>
          rw [digitValue?_of_isDigit hdigit] at h
          exact List.forall_mem_cons.mpr ⟨hdigit, ih h⟩

theorem digitsValue?_eq_some_iff :
    digitsValue? cs = some n ↔ (∀ c ∈ cs, c.isDigit = true) ∧ Nat.ofDigitChars 10 cs 0 = n := by
  constructor
  · intro h
    have hdigits := isDigit_of_foldlM h
    rw [digitsValue?, foldlM_digits hdigits] at h
    exact ⟨hdigits, Option.some.inj h⟩
  · rintro ⟨hdigits, rfl⟩
    exact foldlM_digits hdigits 0

/-! ### Numerals -/

/-- The number that a numeral stands for. -/
def Spells (numeral : List Char) (n : Nat) : Prop :=
  ∃ digits, (numeral = digits ∨ numeral = '+' :: digits) ∧ digits ≠ [] ∧
    (∀ c ∈ digits, c.isDigit = true) ∧ Nat.ofDigitChars 10 digits 0 = n

theorem Spells.of_digits (hne : cs ≠ []) (hdigits : cs.all Char.isDigit = true) :
    Spells cs (Nat.ofDigitChars 10 cs 0) :=
  ⟨cs, .inl rfl, hne, List.all_eq_true.mp hdigits, rfl⟩

theorem Spells.not_isBlank (h : Spells numeral n) : ∀ c ∈ numeral, isBlank c = false := by
  obtain ⟨digits, rfl | rfl, -, hdigits, -⟩ := h
  · exact fun c hc => isBlank_of_isDigit (hdigits c hc)
  · refine List.forall_mem_cons.mpr ⟨by decide, ?_⟩
    exact fun c hc => isBlank_of_isDigit (hdigits c hc)

/-- The reader looks for one sign only, which is no digit, so a numeral is taken apart in one way. -/
theorem decimalBelow?_eq_some_iff :
    decimalBelow? bound cs = some n ↔ Spells cs n ∧ n < bound := by
  have hread (digits : List Char) :
      (if digits = [] then none else (digitsValue? digits).filter (· < bound)) = some n ↔
        (digits ≠ [] ∧ (∀ c ∈ digits, c.isDigit = true) ∧ Nat.ofDigitChars 10 digits 0 = n) ∧
          n < bound := by
    by_cases hempty : digits = []
    · simp [hempty]
    · simp [hempty, Option.filter_eq_some_iff, digitsValue?_eq_some_iff]
  unfold decimalBelow?
  dsimp only
  split
  next rest =>
    rw [hread, and_congr_left_iff]
    intro _
    constructor
    · exact fun h => ⟨rest, .inr rfl, h⟩
    · rintro ⟨digits, rfl | heq, hdigits⟩
      · exact absurd (hdigits.2.1 '+' List.mem_cons_self) (by decide)
      · cases heq
        exact hdigits
  next hsign =>
    rw [hread, and_congr_left_iff]
    intro _
    constructor
    · exact fun h => ⟨cs, .inl rfl, h⟩
    · rintro ⟨digits, rfl | heq, hdigits⟩
      · exact hdigits
      · exact absurd heq (hsign digits)

theorem Spells.unique (hm : Spells numeral m) (hn : Spells numeral n) : m = n := by
  have hread := decimalBelow?_eq_some_iff.mpr ⟨hm, Nat.lt_succ_of_le (Nat.le_max_left m n)⟩
  rw [decimalBelow?_eq_some_iff.mpr ⟨hn, Nat.lt_succ_of_le (Nat.le_max_right m n)⟩] at hread
  exact (Option.some.inj hread).symm

theorem word32?_eq_some_iff {s : String} {value : UInt32} :
    word32? s = some value ↔ Spells s.toList value.toNat := by
  simp only [word32?, Option.map_eq_some_iff, decimalBelow?_eq_some_iff]
  constructor
  · rintro ⟨n, ⟨hspells, hbound⟩, rfl⟩
    rwa [UInt32.toNat_ofNat_of_lt' hbound]
  · intro hspells
    exact ⟨value.toNat, ⟨hspells, value.toNat_lt_size⟩, UInt32.ofNat_toNat⟩

theorem byte?_eq_some_iff {s : String} {value : UInt8} :
    byte? s = some value ↔ Spells s.toList value.toNat := by
  simp only [byte?, Option.map_eq_some_iff, decimalBelow?_eq_some_iff]
  constructor
  · rintro ⟨n, ⟨hspells, hbound⟩, rfl⟩
    rwa [UInt8.toNat_ofNat_of_lt' hbound]
  · intro hspells
    exact ⟨value.toNat, ⟨hspells, value.toNat_lt_size⟩, UInt8.ofNat_toNat⟩

/-- The text is a numeral for the number, with blanks around it. -/
def Shows (text : List Char) (n : Nat) : Prop :=
  ∃ numeral, Surrounds text numeral ∧ Spells numeral n

theorem shows_iff : Shows text n ↔ Spells (trimChars text) n := by
  constructor
  · rintro ⟨numeral, hsurrounds, hspells⟩
    rwa [trimChars_of_surrounds hsurrounds hspells.not_isBlank]
  · exact fun hspells => ⟨_, surrounds_trimChars text, hspells⟩

theorem Shows.unique (hm : Shows text m) (hn : Shows text n) : m = n :=
  (shows_iff.mp hm).unique (shows_iff.mp hn)

theorem word32?_trim_eq_some_iff {s : String} {value : UInt32} :
    word32? (trim s) = some value ↔ Shows s.toList value.toNat := by
  rw [word32?_eq_some_iff, shows_iff, trim, String.toList_ofList]

/-! ### Printed numbers -/

theorem isDigit_of_mem_toString (h : c ∈ (toString n).toList) : c.isDigit = true := by
  rw [Nat.toString_eq_repr, Nat.toList_repr] at h
  exact Nat.isDigit_of_mem_toDigits (by decide) (by decide) h

theorem getLast?_toString_ne (n : Nat) : (toString n).toList.getLast? ≠ some '\n' := by
  intro hlast
  exact absurd (isDigit_of_mem_toString (List.mem_of_getLast? hlast)) (by decide)

theorem spells_toString (n : Nat) : Spells (toString n).toList n := by
  refine ⟨_, .inl rfl, ?_, fun c => isDigit_of_mem_toString, ?_⟩
  · rw [Nat.toString_eq_repr, Nat.toList_repr]
    exact Nat.toDigits_ne_nil
  · rw [Nat.toString_eq_repr, Nat.toList_repr, Nat.ofDigitChars_ten_toDigits]

theorem toString_inj (h : toString m = toString n) : m = n := by
  have hspells := spells_toString m
  rw [h] at hspells
  exact hspells.unique (spells_toString n)

theorem word32?_toString (v : UInt32) : word32? (toString v.toNat) = some v :=
  word32?_eq_some_iff.mpr (spells_toString v.toNat)

/-! ### Hexadecimal numbers -/

theorem not_mem_toDigits (hc : ∀ d < 16, c ≠ Nat.digitChar d) (n : Nat) : c ∉ Nat.toDigits 16 n := by
  induction n using Nat.strongRecOn with
  | _ n ih =>
      rw [Nat.toDigits_eq_if (by decide)]
      split
      next hlt => exact fun hmem => hc n hlt (List.mem_singleton.mp hmem)
      next hge =>
        rw [List.mem_append, List.mem_singleton, not_or]
        exact ⟨ih (n / 16) (by omega), hc _ (Nat.mod_lt n (by decide))⟩

/-- What is no digit is in no hexadecimal number. -/
theorem not_mem_hex (hc : ∀ d < 16, c ≠ Nat.digitChar d) (width n : Nat) :
    c ∉ (hex width n).toList := by
  rw [hex, String.toList_ofList, padZeros, List.mem_append, not_or]
  exact ⟨fun hmem => hc 0 (by decide) (List.eq_of_mem_replicate hmem), not_mem_toDigits hc n⟩

theorem slash_not_mem_hex (width n : Nat) : '/' ∉ (hex width n).toList :=
  not_mem_hex (by decide) width n

theorem valueIn?_append_singleton (base : Nat) (digits : List Char) (c : Char) :
    valueIn? base (digits ++ [c]) = (valueIn? base digits).bind fun value =>
      (hexValue? c).bind fun d => if d < base then some (value * base + d) else none := by
  rw [valueIn?, List.foldlM_append, valueIn?]
  simp

theorem valueIn?_toDigits (n : Nat) : valueIn? 16 (Nat.toDigits 16 n) = some n := by
  have hdigit : ∀ d < 16, hexValue? (Nat.digitChar d) = some d := by decide
  induction n using Nat.strongRecOn with
  | _ n ih =>
      rw [Nat.toDigits_eq_if (by decide)]
      split
      next hlt => simp [valueIn?, hdigit n hlt, hlt]
      next hge =>
        have hlast : n % 16 < 16 := Nat.mod_lt n (by decide)
        rw [valueIn?_append_singleton, ih (n / 16) (by omega), Option.bind_some, hdigit _ hlast,
          Option.bind_some, if_pos hlast, Nat.div_add_mod']

theorem valueIn?_hex (width n : Nat) : valueIn? 16 (hex width n).toList = some n := by
  have hzeros (count : Nat) (digits : List Char) :
      valueIn? 16 (List.replicate count '0' ++ digits) = valueIn? 16 digits := by
    induction count with
    | zero => rfl
    | succ count ih => exact ih
  rw [hex, String.toList_ofList, padZeros, hzeros, valueIn?_toDigits]

theorem hex_inj {width : Nat} (h : hex width m = hex width n) : m = n := by
  have hm := valueIn?_hex width m
  rw [h, valueIn?_hex] at hm
  exact (Option.some.inj hm).symm

/-! ### Texts with a mark between them -/

theorem front_inj {front other back rest : List Char} (hfront : c ∉ front) (hother : c ∉ other)
    (h : front ++ c :: back = other ++ c :: rest) : front = other := by
  have hcut {cs : List Char} (hcs : c ∉ cs) (tail : List Char) :
      (cs ++ c :: tail).takeWhile (· ≠ c) = cs := by
    have hall : ∀ d ∈ cs, (decide (d ≠ c)) = true := by
      intro d hd
      rw [decide_eq_true_eq]
      rintro rfl
      exact hcs hd
    rw [List.takeWhile_append_of_pos hall, List.takeWhile_cons_of_neg (by simp), List.append_nil]
  rw [← hcut hfront back, h, hcut hother]

/-- What stands behind the last mark is not confused with what stands in front of it. -/
theorem back_inj {front other back rest : List Char} (hback : c ∉ back) (hrest : c ∉ rest)
    (h : front ++ c :: back = other ++ c :: rest) : front = other ∧ back = rest := by
  have hreverse := congrArg List.reverse h
  simp only [List.reverse_append, List.reverse_cons, List.append_assoc, List.singleton_append]
    at hreverse
  have hsame : back = rest :=
    List.reverse_inj.mp (front_inj (by simpa using hback) (by simpa using hrest) hreverse)
  subst hsame
  exact ⟨List.append_cancel_right h, rfl⟩

end DaqBus.Text
