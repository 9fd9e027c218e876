import DaqBus.Proofs.Text.Decoding

/-!
# Bytes that stand for themselves

A byte below 128 is a character of its own and part of no other, whatever is around it. So bytes can be cut
there before they are decoded or after, and a slash is in the text exactly if it is in the bytes.
-/

namespace DaqBus.Text.Utf8

variable {b lead : UInt8} {rest back bs : Bytes} {s : String}

theorem isContinuation_of_lt (hb : b < 0x80) : isContinuation b = false := by
  rw [isContinuation, Bool.and_eq_false_iff, decide_eq_false_iff_not, UInt8.not_le]
  exact .inl hb

theorem isSecond_of_lt (lead : UInt8) (hb : b < 0x80) : isSecond lead b = false := by
  have hbyte : b.toNat < 0x80 := UInt8.lt_iff_toNat_lt.mp hb
  have hlead := isSecond_ofNat (UInt8.toNat_lt lead) (UInt8.toNat_lt b)
  rw [UInt8.ofNat_toNat, UInt8.ofNat_toNat] at hlead
  rw [hlead, decide_eq_false_iff_not]
  omega

theorem width_of_lt (hb : b < 0x80) : width b = 1 :=
  if_pos hb

/-- What belongs to a character ends before such a byte. -/
theorem first_append_cons (lead : UInt8) (rest : Bytes) (hb : b < 0x80) (back : Bytes) :
    first lead (rest ++ b :: back) = first lead rest := by
  have hsecond := isSecond_of_lt lead hb
  have hcontinuation := isContinuation_of_lt hb
  -- The width says how many bytes are looked at, and `b` is the first or a later one of them.
  rcases hwidth : width lead with _ | _ | _ | _ | _ | n
  · simp [first, hwidth]
  · simp [first, hwidth]
  · match rest with
    | [] => simp [first, hwidth, hcontinuation]
    | _ :: _ => simp [first, hwidth]
  · match rest with
    | [] => cases back <;> simp [first, hwidth, hsecond]
    | [b1] => cases h1 : isSecond lead b1 <;> simp [first, hwidth, hcontinuation, h1]
    | _ :: _ :: _ => simp [first, hwidth]
  · match rest with
    | [] => rcases back with _ | ⟨_, _ | ⟨_, _⟩⟩ <;> simp [first, hwidth, hsecond]
    | [b1] => cases back <;> cases h1 : isSecond lead b1 <;>
        simp [first, hwidth, hcontinuation, h1]
    | [b1, b2] => cases h1 : isSecond lead b1 <;> cases h2 : isContinuation b2 <;>
        simp [first, hwidth, hcontinuation, h1, h2]
    | _ :: _ :: _ :: _ => simp [first, hwidth]
  · simp [first, hwidth]

theorem first_snd_le (lead : UInt8) (rest : Bytes) : (first lead rest).2 ≤ rest.length := by
  unfold first
  split <;> (repeat' split) <;> simp

theorem decodeChars_cons_of_lt (hb : b < 0x80) (back : Bytes) :
    decodeChars (b :: back) = Char.ofNat b.toNat :: decodeChars back := by
  have hfirst : first b back = (Char.ofNat b.toNat, 0) := by
    unfold first
    rw [width_of_lt hb]
    rfl
  rw [decodeChars, hfirst, List.drop_zero]

/-- **Bytes can be cut before a byte that stands for itself.** -/
theorem decodeChars_append_cons (front : Bytes) (hb : b < 0x80) (back : Bytes) :
    decodeChars (front ++ b :: back) = decodeChars front ++ decodeChars (b :: back) := by
  fun_induction decodeChars front with
  | case1 => rfl
  | case2 lead rest ih =>
      rw [List.cons_append, decodeChars, first_append_cons lead rest hb,
        List.drop_append_of_le_length (first_snd_le lead rest), ih]
      rfl

theorem decode_append_cons (front : Bytes) (hb : b < 0x80) (back : Bytes) :
    decode (front ++ b :: back) = decode front ++ decode (b :: back) := by
  apply String.toList_injective
  rw [String.toList_append, decode, decode, decode, String.toList_ofList, String.toList_ofList,
    String.toList_ofList, decodeChars_append_cons front hb]

/-! ### One byte among others -/

theorem ofNat_ne_slash {n : Nat} (h : n ≠ 0x2F) : Char.ofNat n ≠ '/' := by
  intro hchar
  by_cases hvalid : n.isValidChar
  · rw [Char.ofNat, dif_pos hvalid] at hchar
    exact h (congrArg Char.toNat hchar)
  · rw [Char.ofNat, dif_neg hvalid] at hchar
    exact absurd hchar (by decide)

/-- Only a slash is read as one: more bytes make a greater number. -/
theorem first_ne_slash (hlead : lead ≠ 0x2F) (rest : Bytes) : (first lead rest).1 ≠ '/' := by
  have hreplacement : replacement ≠ '/' := by decide
  have hnumber : lead.toNat ≠ 0x2F := fun h => hlead (UInt8.toNat_inj.mp h)
  have hbound := UInt8.toNat_lt lead
  have hwidth := width_ofNat hbound
  rw [UInt8.ofNat_toNat] at hwidth
  have hsecond (b1 : UInt8) : isSecond lead b1 = true →
      (lead.toNat = 0xE0 → 32 ≤ payload b1) ∧ (lead.toNat = 0xF0 → 16 ≤ payload b1) := by
    have hb1 := isSecond_ofNat hbound (UInt8.toNat_lt b1)
    rw [UInt8.ofNat_toNat, UInt8.ofNat_toNat] at hb1
    rw [hb1, decide_eq_true_eq, payload]
    omega
  unfold first
  split
  next => exact ofNat_ne_slash hnumber
  next h =>
    rw [h] at hwidth
    split
    · exact ofNat_ne_slash (by split_ifs at hwidth <;> omega)
    · exact hreplacement
  next b1 b2 _ h =>
    rw [h] at hwidth
    split
    next => exact hreplacement
    next h1 =>
      have hb1 := hsecond b1 (by simpa using h1)
      split
      · exact ofNat_ne_slash (by split_ifs at hwidth <;> omega)
      · exact hreplacement
  next => exact hreplacement
  next b1 b2 b3 _ h =>
    rw [h] at hwidth
    split
    next => exact hreplacement
    next h1 =>
      have hb1 := hsecond b1 (by simpa using h1)
      split
      · exact hreplacement
      split
      · exact ofNat_ne_slash (by split_ifs at hwidth <;> omega)
      · exact hreplacement
  next => exact hreplacement
  next => exact hreplacement
  next => exact hreplacement

theorem slash_mem_decodeChars_iff : '/' ∈ decodeChars bs ↔ 0x2F ∈ bs := by
  constructor
  · intro hmem
    fun_induction decodeChars bs with
    | case1 => cases hmem
    | case2 lead rest ih =>
        rcases List.mem_cons.mp hmem with hfirst | hrest
        · by_cases hlead : lead = 0x2F
          · rw [hlead]
            exact List.mem_cons_self
          · exact absurd hfirst.symm (first_ne_slash hlead rest)
        · exact List.mem_cons_of_mem _ (List.mem_of_mem_drop (ih hrest))
  · intro hmem
    obtain ⟨front, back, rfl⟩ := List.append_of_mem hmem
    rw [decodeChars_append_cons front (by decide), decodeChars_cons_of_lt (by decide)]
    exact List.mem_append_right _ List.mem_cons_self

theorem decodeChars_eq_nil_iff : decodeChars bs = [] ↔ bs = [] := by
  cases bs with
  | nil => simp [decodeChars]
  | cons b bs =>
      rw [decodeChars]
      simp

/-- Text ends in a slash where its bytes do. -/
theorem getLast?_decodeChars_eq_slash_iff :
    (decodeChars bs).getLast? = some '/' ↔ bs.getLast? = some 0x2F := by
  constructor
  · intro hlast
    have hmem := slash_mem_decodeChars_iff.mp (List.mem_of_getLast? hlast)
    -- Behind the last slash of the bytes there is none in the text, so nothing is there.
    obtain ⟨back, front, hreverse, hback⟩ := List.eq_append_cons_of_mem (List.mem_reverse.mpr hmem)
    obtain rfl : bs = front.reverse ++ 0x2F :: back.reverse := by
      rw [← List.reverse_reverse bs, hreverse]
      simp
    rw [← List.mem_reverse, ← slash_mem_decodeChars_iff] at hback
    rw [decodeChars_append_cons _ (by decide), decodeChars_cons_of_lt (by decide)] at hlast
    cases hchars : decodeChars back.reverse with
    | nil =>
        rw [decodeChars_eq_nil_iff.mp hchars]
        simp
    | cons c cs =>
        rw [hchars, List.getLast?_append, List.getLast?_cons_cons] at hlast
        rw [hchars] at hback
        cases hend : (c :: cs).getLast? with
        | none => cases List.getLast?_eq_none_iff.mp hend
        | some d =>
            rw [hend, Option.some_or] at hlast
            cases hlast
            exact absurd (List.mem_of_getLast? hend) hback
  · intro hlast
    obtain ⟨front, rfl⟩ := List.getLast?_eq_some_iff.mp hlast
    rw [decodeChars_append_cons front (by decide), decodeChars_cons_of_lt (by decide), decodeChars]
    exact List.getLast?_concat

/-- The bytes of a character hold such a byte only if it is the character. -/
theorem mem_utf8EncodeChar_iff (hb : b < 0x80) {c : Char} :
    b ∈ String.utf8EncodeChar c ↔ c.val.toNat = b.toNat := by
  have hbyte : b.toNat < 0x80 := UInt8.lt_iff_toNat_lt.mp hb
  have hlimit := val_lt c
  have htrail (k n : Nat) : b ∉ trail k n := by
    induction k with
    | zero => exact List.not_mem_nil
    | succ k ih =>
        rw [trail, List.mem_cons, not_or]
        refine ⟨?_, ih⟩
        rintro rfl
        rw [UInt8.toNat_ofNat'] at hbyte
        omega
  have hmem : b ∈ String.utf8EncodeChar c ↔ b.toNat = lead c.val.toNat := by
    rw [utf8EncodeChar_eq, List.mem_cons, or_iff_left (htrail _ _), ← UInt8.toNat_inj,
      UInt8.toNat_ofNat', Nat.mod_eq_of_lt (lead_lt hlimit)]
  rw [hmem]
  constructor
  · intro hlead
    rcases lead_bounds hlimit with ⟨hsize, -⟩ | h
    · rw [hlead, lead, hsize]
      simp [leadMark]
    · omega
  · intro hnumber
    have hsize : trailSize c.val.toNat = 0 := if_pos (by omega)
    rw [lead, hsize, hnumber]
    simp [leadMark]

theorem mem_encode_iff (hb : b < 0x80) : b ∈ encode s ↔ Char.ofNat b.toNat ∈ s.toList := by
  have hbyte : b.toNat < 0x80 := UInt8.lt_iff_toNat_lt.mp hb
  have hchar (c : Char) : c.val.toNat = b.toNat ↔ Char.ofNat b.toNat = c := by
    constructor
    · intro hnumber
      rw [← hnumber]
      exact Char.ofNat_toNat c
    · rintro rfl
      have hvalid : b.toNat.isValidChar := .inl (by omega)
      rw [Char.ofNat, dif_pos hvalid]
      rfl
  rw [encode, List.mem_flatMap]
  simp only [mem_utf8EncodeChar_iff hb, hchar, exists_eq_right']

end DaqBus.Text.Utf8
