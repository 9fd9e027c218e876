import DaqBus.Text.Utf8
import Mathlib.Data.String.Basic
import Mathlib.Tactic.ByContra
import Mathlib.Tactic.SplitIfs

/-!
# The order of bytes

Texts are in the same order as their bytes. The encoding of a character is its number written to the
base 64, with a mark on the first digit that grows with the number of digits. So a greater character
has a greater first byte or, behind the bytes it shares with a smaller one, a greater next byte.
-/

namespace DaqBus.Text.Utf8

variable {m n : Nat} {front back : Bytes}

theorem val_lt (c : Char) : c.val.toNat < 0x110000 := by
  rcases c.valid with h | ⟨-, h⟩
  · exact Nat.lt_trans h (by decide)
  · exact h

theorem ofNat_cons_lt (hn : n < 256) (h : m < n ∨ m = n ∧ front < back) :
    UInt8.ofNat m :: front < UInt8.ofNat n :: back := by
  rw [List.cons_lt_cons_iff]
  rcases h with h | ⟨rfl, h⟩
  · left
    rw [UInt8.lt_iff_toNat_lt, UInt8.toNat_ofNat', UInt8.toNat_ofNat', Nat.mod_eq_of_lt hn,
      Nat.mod_eq_of_lt (Nat.lt_trans h hn)]
    exact h
  · exact .inr ⟨rfl, h⟩

/-- The last `k` digits of a number, each in a byte of its own. -/
def trail : (k : Nat) → Nat → Bytes
  | 0, _ => []
  | k + 1, n => UInt8.ofNat (n / 64 ^ k % 64 + 0x80) :: trail k n

theorem trail_lt {k : Nat} (h : m % 64 ^ k < n % 64 ^ k) : trail k m ++ front < trail k n ++ back := by
  induction k with
  | zero => exact absurd h (by rw [Nat.pow_zero, Nat.mod_one, Nat.mod_one]; decide)
  | succ k ih =>
      rw [Nat.pow_succ, Nat.mod_mul, Nat.mod_mul] at h
      have hrest : n % 64 ^ k < 64 ^ k := Nat.mod_lt _ (Nat.pow_pos (by decide))
      have hdigit : m / 64 ^ k % 64 ≤ n / 64 ^ k % 64 := by
        by_contra hgreater
        have hstep := Nat.mul_le_mul_left (64 ^ k) (Nat.not_le.mp hgreater)
        rw [Nat.mul_succ] at hstep
        omega
      -- A greater first digit decides; under the same one the rest does.
      apply ofNat_cons_lt (by omega)
      rcases Nat.lt_or_eq_of_le hdigit with hless | hsame
      · exact .inl (by omega)
      · rw [hsame] at h ⊢
        exact .inr ⟨rfl, ih (by omega)⟩

/-- How many bytes follow the first one. -/
def trailSize (n : Nat) : Nat :=
  if n ≤ 0x7f then 0 else if n ≤ 0x7ff then 1 else if n ≤ 0xffff then 2 else 3

/-- What the first byte holds beside its digit. -/
def leadMark : Nat → Nat
  | 0 => 0
  | 1 => 0xc0
  | 2 => 0xe0
  | _ => 0xf0

def lead (n : Nat) : Nat := n / 64 ^ trailSize n + leadMark (trailSize n)

theorem utf8EncodeChar_eq (c : Char) :
    String.utf8EncodeChar c =
      UInt8.ofNat (lead c.val.toNat) :: trail (trailSize c.val.toNat) c.val.toNat := by
  have hlimit := val_lt c
  unfold String.utf8EncodeChar
  generalize c.val.toNat = n at *
  dsimp only
  by_cases h1 : n ≤ 0x7f
  · have hsize : trailSize n = 0 := if_pos h1
    have hlead : lead n = n := by
      rw [lead, hsize, Nat.pow_zero, Nat.div_one]
      rfl
    rw [if_pos h1, hsize, hlead]
    rfl
  by_cases h2 : n ≤ 0x7ff
  · have hsize : trailSize n = 1 := by rw [trailSize, if_neg h1, if_pos h2]
    have hlead : lead n = n / 64 % 0x20 + 0xc0 := by
      rw [lead, hsize, leadMark]
      omega
    rw [if_neg h1, if_pos h2, hsize, hlead]
    simp [trail]
  by_cases h3 : n ≤ 0xffff
  · have hsize : trailSize n = 2 := by rw [trailSize, if_neg h1, if_neg h2, if_pos h3]
    have hlead : lead n = n / 4096 % 0x10 + 0xe0 := by
      rw [lead, hsize, leadMark]
      omega
    rw [if_neg h1, if_neg h2, if_pos h3, hsize, hlead]
    simp [trail]
  · have hsize : trailSize n = 3 := by rw [trailSize, if_neg h1, if_neg h2, if_neg h3]
    have hlead : lead n = n / 262144 % 0x08 + 0xf0 := by
      have hmark : leadMark 3 = 0xf0 := rfl
      rw [lead, hsize, hmark]
      omega
    rw [if_neg h1, if_neg h2, if_neg h3, hsize, hlead]
    simp [trail]

/-- The marks keep the first bytes of different sizes apart. -/
theorem lead_bounds (hlimit : n < 0x110000) :
    (trailSize n = 0 ∧ lead n < 0x80) ∨ (trailSize n = 1 ∧ 0xc0 ≤ lead n ∧ lead n < 0xe0) ∨
      (trailSize n = 2 ∧ 0xe0 ≤ lead n ∧ lead n < 0xf0) ∨
      (trailSize n = 3 ∧ 0xf0 ≤ lead n ∧ lead n < 0xf8) := by
  unfold lead trailSize
  split
  · exact .inl ⟨rfl, by simp only [leadMark]; omega⟩
  split
  · exact .inr (.inl ⟨rfl, by simp only [leadMark]; omega⟩)
  split
  · exact .inr (.inr (.inl ⟨rfl, by simp only [leadMark]; omega⟩))
  · exact .inr (.inr (.inr ⟨rfl, by simp only [leadMark]; omega⟩))

theorem trailSize_le_trailSize (h : m ≤ n) : trailSize m ≤ trailSize n := by
  unfold trailSize
  split_ifs <;> omega

theorem utf8EncodeChar_append_lt {c d : Char} (h : c < d) (front back : Bytes) :
    String.utf8EncodeChar c ++ front < String.utf8EncodeChar d ++ back := by
  have hlt : c.val.toNat < d.val.toNat := h
  have hc := lead_bounds (val_lt c)
  have hd := lead_bounds (val_lt d)
  rw [utf8EncodeChar_eq, utf8EncodeChar_eq]
  apply ofNat_cons_lt (by omega)
  rcases Nat.lt_or_eq_of_le (trailSize_le_trailSize (Nat.le_of_lt hlt)) with hsize | hsize
  · exact .inl (by omega)
  · unfold lead
    rw [hsize]
    generalize trailSize d.val.toNat = k
    rcases Nat.lt_or_eq_of_le (Nat.div_le_div_right (c := 64 ^ k) (Nat.le_of_lt hlt)) with hdigit | hdigit
    · exact .inl (by omega)
    · refine .inr ⟨by rw [hdigit], trail_lt ?_⟩
      have hm := Nat.div_add_mod c.val.toNat (64 ^ k)
      have hn := Nat.div_add_mod d.val.toNat (64 ^ k)
      rw [hdigit] at hm
      omega

theorem encode_lt_encode {s t : String} (h : s < t) : encode s < encode t := by
  rw [String.lt_iff] at h
  unfold encode
  generalize s.toList = cs at h
  generalize t.toList = ds at h
  induction cs generalizing ds with
  | nil =>
      cases ds with
      | nil => cases h
      | cons d ds =>
          rw [List.flatMap_nil, List.flatMap_cons, utf8EncodeChar_eq]
          exact List.nil_lt_cons _ _
  | cons c cs ih =>
      cases ds with
      | nil => cases h
      | cons d ds =>
          rw [List.flatMap_cons, List.flatMap_cons]
          rcases List.cons_lt_cons_iff.mp h with hless | ⟨rfl, hrest⟩
          · exact utf8EncodeChar_append_lt hless _ _
          · exact List.append_left_lt (ih ds hrest)

theorem encode_append (s t : String) : encode (s ++ t) = encode s ++ encode t := by
  rw [encode, String.toList_append, List.flatMap_append]
  rfl

theorem encode_injective {s t : String} (h : encode s = encode t) : s = t := by
  rcases lt_trichotomy s t with hless | rfl | hless
  · have hbytes := encode_lt_encode hless
    rw [h] at hbytes
    exact absurd hbytes (List.lt_irrefl _)
  · rfl
  · have hbytes := encode_lt_encode hless
    rw [h] at hbytes
    exact absurd hbytes (List.lt_irrefl _)

/-- Different texts in order are in the order of their bytes, none like the one before it. -/
theorem pairwise_mergeSort {texts : List String} (hnodup : texts.Nodup) :
    texts.mergeSort.Pairwise fun s t => encode s < encode t := by
  have hsorted : texts.mergeSort.Pairwise fun s t => decide (s ≤ t) = true :=
    List.pairwise_mergeSort (fun _ _ _ => by simpa using String.le_trans)
      (fun s t => by simpa using String.le_total s t) _
  have hdistinct : texts.mergeSort.Pairwise (· ≠ ·) := (List.mergeSort_perm texts _).nodup_iff.mpr hnodup
  refine (hsorted.and hdistinct).imp fun ⟨hle, hne⟩ => ?_
  exact encode_lt_encode (lt_of_le_of_ne (of_decide_eq_true hle) hne)

end DaqBus.Text.Utf8
