import DaqBus.Proofs.Text.ByteOrder

/-!
# Reading back what was written

The first byte of a character tells how many follow it, and each of these passes for what it is. So
decoding takes an encoded text apart character by character.
-/

namespace DaqBus.Text.Utf8

variable {n m k : Nat}

theorem width_ofNat (h : n < 256) :
    width (UInt8.ofNat n) = if n < 0x80 then 1 else if 0xC2 ≤ n ∧ n ≤ 0xDF then 2
      else if 0xE0 ≤ n ∧ n ≤ 0xEF then 3 else if 0xF0 ≤ n ∧ n ≤ 0xF4 then 4 else 0 := by
  simp only [width, Bool.and_eq_true, decide_eq_true_eq, UInt8.lt_iff_toNat_lt,
    UInt8.le_iff_toNat_le, UInt8.toNat_ofNat', Nat.mod_eq_of_lt h, UInt8.reduceToNat, Nat.reducePow]

theorem isContinuation_ofNat (h : n < 256) :
    isContinuation (UInt8.ofNat n) = decide (0x80 ≤ n ∧ n ≤ 0xBF) := by
  simp only [isContinuation, UInt8.le_iff_toNat_le, UInt8.toNat_ofNat', Nat.mod_eq_of_lt h,
    UInt8.reduceToNat, Nat.reducePow, Bool.decide_and]

/-- The digits that a lead byte rules out are those of overlong forms and of no character. -/
theorem isSecond_ofNat (hn : n < 256) (hm : m < 256) :
    isSecond (UInt8.ofNat n) (UInt8.ofNat m) = decide (0x80 ≤ m ∧ m ≤ 0xBF ∧ (n = 0xE0 → 0xA0 ≤ m) ∧
      (n = 0xED → m ≤ 0x9F) ∧ (n = 0xF0 → 0x90 ≤ m) ∧ (n = 0xF4 → m ≤ 0x8F)) := by
  simp only [isSecond, isContinuation, ← UInt8.toNat_inj, UInt8.le_iff_toNat_le, UInt8.toNat_ofNat',
    Nat.mod_eq_of_lt hn, Nat.mod_eq_of_lt hm, UInt8.reduceToNat, Nat.reducePow]
  rw [Bool.eq_iff_iff]
  split_ifs <;> simp only [Bool.and_eq_true, decide_eq_true_eq] <;> omega

theorem payload_ofNat (h : n < 256) : payload (UInt8.ofNat n) = n % 64 := by
  rw [payload, UInt8.toNat_ofNat', Nat.mod_eq_of_lt h]

/-! ### The bytes of a character -/

theorem isContinuation_digit (m : Nat) : isContinuation (UInt8.ofNat (m % 64 + 0x80)) = true := by
  rw [isContinuation_ofNat (by omega), decide_eq_true_eq]
  omega

theorem payload_digit (m : Nat) : payload (UInt8.ofNat (m % 64 + 0x80)) = m % 64 := by
  rw [payload_ofNat (by omega)]
  omega

theorem lead_lt (hlimit : n < 0x110000) : lead n < 256 := by
  rcases lead_bounds hlimit with ⟨-, h⟩ | ⟨-, -, h⟩ | ⟨-, -, h⟩ | ⟨-, -, h⟩ <;> omega

theorem width_lead (hlimit : n < 0x110000) : width (UInt8.ofNat (lead n)) = trailSize n + 1 := by
  rw [width_ofNat (lead_lt hlimit)]
  unfold lead trailSize
  split_ifs <;> simp only [leadMark, Nat.reducePow] at * <;> omega

/-- The second byte of a character is one that its first byte allows. -/
theorem isSecond_lead (hlimit : n < 0x110000) (hvalid : n < 0xd800 ∨ 0xdfff < n)
    (hsize : trailSize n = k + 2) :
    isSecond (UInt8.ofNat (lead n)) (UInt8.ofNat (n / 64 ^ (k + 1) % 64 + 0x80)) = true := by
  have hrange : (k = 0 ∧ 0x800 ≤ n ∧ n < 0x10000) ∨ (k = 1 ∧ 0x10000 ≤ n) := by
    unfold trailSize at hsize
    split at hsize
    · omega
    split at hsize
    · omega
    split at hsize <;> omega
  rw [isSecond_ofNat (lead_lt hlimit) (by omega), decide_eq_true_eq, lead, hsize]
  rcases hrange with ⟨rfl, hn⟩ | ⟨rfl, hn⟩
  · simp only [leadMark, Nat.reducePow, Nat.reduceAdd]
    omega
  · have hmark : leadMark (1 + 2) = 0xf0 := rfl
    simp only [hmark, Nat.reducePow, Nat.reduceAdd]
    omega

/-- The digits of a character put together again. -/
theorem first_trail (hlimit : n < 0x110000) (hvalid : n < 0xd800 ∨ 0xdfff < n) (rest : Bytes) :
    first (UInt8.ofNat (lead n)) (trail (trailSize n) n ++ rest) = (Char.ofNat n, trailSize n) := by
  have hwidth := width_lead hlimit
  have hbyte : (UInt8.ofNat (lead n)).toNat = lead n := by
    rw [UInt8.toNat_ofNat', Nat.mod_eq_of_lt (lead_lt hlimit)]
  have hlead : lead n = n / 64 ^ trailSize n + leadMark (trailSize n) := rfl
  unfold first
  rcases lead_bounds hlimit with ⟨hsize, h⟩ | ⟨hsize, -, h⟩ | ⟨hsize, -, h⟩ | ⟨hsize, -, h⟩ <;>
    rw [hsize] at hlead <;> simp only [leadMark, Nat.reducePow, Nat.div_one] at hlead <;>
    rw [hwidth, hsize]
  · rw [Nat.add_zero] at hlead
    simp only [hbyte]
    rw [hlead]
  · have hvalue : lead n % 32 * 64 + n % 64 = n := by omega
    simp only [trail, List.cons_append, isContinuation_digit, payload_digit, hbyte, Nat.pow_zero,
      Nat.div_one, hvalue, if_true]
  · have hvalue : (lead n % 16 * 64 + n / 64 % 64) * 64 + n % 64 = n := by omega
    have hsecond := isSecond_lead (k := 0) hlimit hvalid hsize
    rw [Nat.pow_one] at hsecond
    simp only [trail, List.cons_append, hsecond, isContinuation_digit, payload_digit, hbyte,
      Nat.pow_zero, Nat.pow_one, Nat.div_one, hvalue, Bool.not_true, Bool.false_eq_true, if_false,
      if_true]
  · have hvalue : ((lead n % 8 * 64 + n / 4096 % 64) * 64 + n / 64 % 64) * 64 + n % 64 = n := by omega
    have hsecond := isSecond_lead (k := 1) hlimit hvalid hsize
    simp only [Nat.reduceAdd, Nat.reducePow] at hsecond
    simp only [trail, List.cons_append, hsecond, isContinuation_digit, payload_digit, hbyte,
      Nat.pow_zero, Nat.pow_one, Nat.reducePow, Nat.div_one, hvalue, Bool.not_true,
      Bool.false_eq_true, if_false, if_true]

theorem length_trail (k n : Nat) : (trail k n).length = k := by
  induction k with
  | zero => rfl
  | succ k ih => rw [trail, List.length_cons, ih]

theorem decodeChars_utf8EncodeChar (c : Char) (rest : Bytes) :
    decodeChars (String.utf8EncodeChar c ++ rest) = c :: decodeChars rest := by
  have hvalid : c.val.toNat < 0xd800 ∨ 0xdfff < c.val.toNat := c.valid.imp_right And.left
  have hchar : Char.ofNat c.val.toNat = c := Char.ofNat_toNat c
  rw [utf8EncodeChar_eq, List.cons_append, decodeChars, first_trail (val_lt c) hvalid, hchar,
    List.drop_left' (length_trail _ _)]

/-- **Text comes back.** -/
theorem decode_encode (s : String) : decode (encode s) = s := by
  have hchars : ∀ cs : List Char, decodeChars (cs.flatMap String.utf8EncodeChar) = cs := by
    intro cs
    induction cs with
    | nil => rw [List.flatMap_nil, decodeChars]
    | cons c cs ih => rw [List.flatMap_cons, decodeChars_utf8EncodeChar, ih]
  rw [decode, encode, hchars, String.ofList_toList]

theorem length_encode (s : String) : (encode s).length = s.utf8ByteSize := by
  have hbytes : s.toByteArray = s.toList.utf8Encode := by simp
  rw [← String.size_toByteArray, hbytes, List.utf8Encode, List.size_toByteArray]
  rfl

end DaqBus.Text.Utf8
