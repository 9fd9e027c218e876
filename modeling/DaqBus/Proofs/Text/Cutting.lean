import DaqBus.Proofs.Text.Decoding

/-!
# The text of cut bytes

Bytes of a text that are cut off at some count show the characters that are whole in front of the cut. A
character that the cut goes through shows as one replacement.
-/

namespace DaqBus.Text.Utf8

variable {n k room : Nat} {c : Char} {cs front : List Char}

/-! ### A character without its end -/

/-- Too few bytes for the width are one broken sequence, since each of them may stand where it does. -/
theorem first_incomplete (hlimit : n < 0x110000) (hvalid : n < 0xd800 ∨ 0xdfff < n)
    (hk : k < trailSize n) :
    first (UInt8.ofNat (lead n)) ((trail (trailSize n) n).take k) = (replacement, k) := by
  have hwidth := width_lead hlimit
  have hcases : (trailSize n = 1 ∧ k = 0) ∨ (trailSize n = 2 ∧ (k = 0 ∨ k = 1)) ∨
      (trailSize n = 3 ∧ (k = 0 ∨ k = 1 ∨ k = 2)) := by
    have hmax : trailSize n ≤ 3 := by
      unfold trailSize
      split_ifs <;> omega
    omega
  unfold first
  rcases hcases with ⟨hsize, rfl⟩ | ⟨hsize, rfl | rfl⟩ | ⟨hsize, rfl | rfl | rfl⟩
  · rw [hwidth, hsize]
    rfl
  · rw [hwidth, hsize]
    rfl
  · have hsecond := isSecond_lead (k := 0) hlimit hvalid hsize
    rw [hwidth, hsize]
    simp only [trail, List.take_succ_cons, List.take_zero, hsecond, if_true]
  · rw [hwidth, hsize]
    rfl
  · have hsecond := isSecond_lead (k := 1) hlimit hvalid hsize
    rw [hwidth, hsize]
    simp only [trail, List.take_succ_cons, List.take_zero, hsecond, if_true]
  · have hsecond := isSecond_lead (k := 1) hlimit hvalid hsize
    rw [hwidth, hsize]
    simp only [trail, List.take_succ_cons, List.take_zero, hsecond, isContinuation_digit, Bool.not_true,
      Bool.false_eq_true, if_false, if_true]

theorem length_utf8EncodeChar_eq (c : Char) : c.utf8Size = trailSize c.val.toNat + 1 := by
  rw [← String.length_utf8EncodeChar, utf8EncodeChar_eq, List.length_cons, length_trail]

/-- **A character that is cut** shows as one replacement. -/
theorem decodeChars_take_utf8EncodeChar (hpos : 0 < room) (hcut : room < c.utf8Size) :
    decodeChars ((String.utf8EncodeChar c).take room) = [replacement] := by
  have hvalid : c.val.toNat < 0xd800 ∨ 0xdfff < c.val.toNat ∧ c.val.toNat < 0x110000 := c.valid
  obtain ⟨k, rfl⟩ : ∃ k, room = k + 1 := ⟨room - 1, by omega⟩
  have hk : k < trailSize c.val.toNat := by
    rw [length_utf8EncodeChar_eq] at hcut
    omega
  have hlength : ((trail (trailSize c.val.toNat) c.val.toNat).take k).length = k := by
    rw [List.length_take, length_trail]
    omega
  rw [utf8EncodeChar_eq, List.take_succ_cons, decodeChars,
    first_incomplete (val_lt c) (by omega) hk, List.drop_of_length_le (Nat.le_of_eq hlength),
    decodeChars]

/-! ### A text without its end -/

/-- The characters that the first bytes of a text show. -/
def cut : (room : Nat) → List Char → List Char
  | _, [] => []
  | room, c :: cs =>
    if c.utf8Size ≤ room then c :: cut (room - c.utf8Size) cs
    else if room = 0 then [] else [replacement]

theorem decodeChars_take (room : Nat) (cs : List Char) :
    decodeChars ((cs.flatMap String.utf8EncodeChar).take room) = cut room cs := by
  induction cs generalizing room with
  | nil =>
      rw [List.flatMap_nil, List.take_nil, decodeChars]
      rfl
  | cons c cs ih =>
      have hlength : (String.utf8EncodeChar c).length = c.utf8Size := String.length_utf8EncodeChar c
      rw [List.flatMap_cons, List.take_append, hlength, cut]
      split
      next hfits =>
        rw [List.take_of_length_le (by omega), decodeChars_utf8EncodeChar, ih]
      next hcut =>
        have hnone : room - c.utf8Size = 0 := by omega
        rw [hnone, List.take_zero, List.append_nil]
        split
        next hempty => rw [hempty, List.take_zero, decodeChars]
        next hpos => exact decodeChars_take_utf8EncodeChar (by omega) (by omega)

/-- The number of bytes of some characters. -/
def size : List Char → Nat
  | [] => 0
  | c :: cs => c.utf8Size + size cs

theorem size_toList (s : String) : size s.toList = s.utf8ByteSize := by
  have hsize (cs : List Char) : size cs = (cs.flatMap String.utf8EncodeChar).length := by
    induction cs with
    | nil => rfl
    | cons c cs ih => rw [size, ih, List.flatMap_cons, List.length_append, String.length_utf8EncodeChar]
  rw [← length_encode, encode, hsize]

/-- The cut goes through the character behind `front`. -/
structure Splits (room : Nat) (cs front : List Char) (c : Char) : Prop where
  isPrefix : front ++ [c] <+: cs
  begins : size front < room
  ends : room < size front + c.utf8Size

theorem Splits.cut_eq (h : Splits room cs front c) : cut room cs = front ++ [replacement] := by
  obtain ⟨hlead, hbegins, hends⟩ := h
  induction front generalizing room cs with
  | nil =>
      cases cs with
      | nil => cases List.eq_nil_of_prefix_nil hlead
      | cons d cs =>
          obtain ⟨rfl, -⟩ := List.cons_prefix_cons.mp hlead
          rw [size] at hbegins hends
          rw [cut, if_neg (by omega), if_neg (by omega)]
          rfl
  | cons d front ih =>
      cases cs with
      | nil => cases List.eq_nil_of_prefix_nil hlead
      | cons e cs =>
          obtain ⟨rfl, hrest⟩ := List.cons_prefix_cons.mp hlead
          rw [size] at hbegins hends
          rw [cut, if_pos (by omega), ih hrest (by omega) (by omega)]
          rfl

/-- Where no character is cut, the text is a prefix. -/
theorem cut_prefix_or_splits (room : Nat) (cs : List Char) :
    cut room cs <+: cs ∨ ∃ front c, Splits room cs front c := by
  induction cs generalizing room with
  | nil => exact .inl List.nil_prefix
  | cons c cs ih =>
      rw [cut]
      split
      next hfits =>
        rcases ih (room - c.utf8Size) with hlead | ⟨front, d, hlead, hbegins, hends⟩
        · exact .inl (List.cons_prefix_cons.mpr ⟨rfl, hlead⟩)
        · refine .inr ⟨c :: front, d, List.cons_prefix_cons.mpr ⟨rfl, hlead⟩, ?_, ?_⟩ <;>
            rw [size] <;> omega
      next hcut =>
        split
        next => exact .inl List.nil_prefix
        next hpos =>
          have hnil : size [] = 0 := rfl
          exact .inr ⟨[], c, List.cons_prefix_cons.mpr ⟨rfl, List.nil_prefix⟩, by omega, by omega⟩

/-- What fits is shown. -/
theorem prefix_cut (hlead : front <+: cs) (hsize : size front ≤ room) : front <+: cut room cs := by
  induction front generalizing room cs with
  | nil => exact List.nil_prefix
  | cons d front ih =>
      cases cs with
      | nil => cases List.eq_nil_of_prefix_nil hlead
      | cons e cs =>
          obtain ⟨rfl, hrest⟩ := List.cons_prefix_cons.mp hlead
          rw [size] at hsize
          rw [cut, if_pos (by omega)]
          exact List.cons_prefix_cons.mpr ⟨rfl, ih hrest (by omega)⟩

theorem Splits.eq_replacement (h : Splits room cs front c) (hlead : front ++ [replacement] <+: cs) :
    c = replacement := by
  have hsame := List.prefix_of_prefix_length_le hlead h.isPrefix (by simp)
  exact (List.singleton_inj.mp (List.append_cancel_left (hsame.eq_of_length (by simp)))).symm

/-- **When the text of cut bytes is a prefix.** A replacement that is cut shows as what it is. -/
theorem cut_prefix_iff :
    cut room cs <+: cs ↔ ∀ front c, Splits room cs front c → c = replacement := by
  constructor
  · intro hlead front c h
    rw [h.cut_eq] at hlead
    exact h.eq_replacement hlead
  · intro hall
    rcases cut_prefix_or_splits room cs with hlead | ⟨front, c, h⟩
    · exact hlead
    · rw [h.cut_eq, ← hall front c h]
      exact h.isPrefix

theorem cut_of_size_le (h : size cs ≤ room) : cut room cs = cs := by
  induction cs generalizing room with
  | nil => rfl
  | cons c cs ih =>
      rw [size] at h
      rw [cut, if_pos (by omega), ih (by omega)]

/-! ### A text up to its first zero byte -/

theorem zero_not_mem_trail (k n : Nat) : (0 : UInt8) ∉ trail k n := by
  induction k with
  | zero => exact List.not_mem_nil
  | succ k ih =>
      rw [trail, List.mem_cons, not_or, ← UInt8.toNat_inj, UInt8.toNat_ofNat', UInt8.toNat_zero]
      exact ⟨by omega, ih⟩

/-- The zero byte belongs to one character only. -/
theorem zero_not_mem_utf8EncodeChar (hc : c ≠ '\x00') : 0 ∉ String.utf8EncodeChar c := by
  have hpos : c.val.toNat ≠ 0 := fun hzero =>
    hc (Char.ext (UInt32.toNat_inj.mp hzero))
  have hlead : 0 < lead c.val.toNat ∧ lead c.val.toNat < 256 := by
    rcases lead_bounds (val_lt c) with ⟨hsize, h⟩ | ⟨-, h⟩ | ⟨-, h⟩ | ⟨-, h⟩
    · refine ⟨?_, by omega⟩
      rw [lead, hsize, Nat.pow_zero, Nat.div_one, leadMark]
      omega
    all_goals omega
  rw [utf8EncodeChar_eq, List.mem_cons, not_or, ← UInt8.toNat_inj, UInt8.toNat_ofNat',
    UInt8.toNat_zero]
  exact ⟨by omega, zero_not_mem_trail _ _⟩

theorem takeWhile_flatMap_utf8EncodeChar (cs : List Char) :
    (cs.flatMap String.utf8EncodeChar).takeWhile (· ≠ 0) =
      (cs.takeWhile (· ≠ '\x00')).flatMap String.utf8EncodeChar := by
  induction cs with
  | nil => rfl
  | cons c cs ih =>
      by_cases hc : c = '\x00'
      · subst hc
        rfl
      · have hbytes : ∀ b ∈ String.utf8EncodeChar c, decide (b ≠ 0) = true := fun b hb =>
          decide_eq_true fun hzero => zero_not_mem_utf8EncodeChar hc (hzero ▸ hb)
        rw [List.flatMap_cons, List.takeWhile_append_of_pos hbytes, ih, List.takeWhile_cons,
          if_pos (decide_eq_true hc), List.flatMap_cons]

end DaqBus.Text.Utf8
