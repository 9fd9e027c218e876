import DaqBus.Proofs.Control.RoundTrip
import Mathlib.Data.Nat.Bitwise

/-!
# The slots that a mask selects

A snapshot shows the slots of a group whose bits are set in the mask of the group. The bits are tested
one by one with a shifted word, the mask of the standard group being widened to that word first. What is
shown is the same as if the mask were a set of slots: every slot of the set with its value, in order, and
nothing of the slots outside of it.
-/

namespace DaqBus.Control

variable {mask : UInt32} {slot n : Nat} {values : List UInt32}

/-! ### The test of one bit -/

theorem toNat_shifted (hslot : slot < 32) :
    ((1 : UInt32) <<< UInt32.ofNat slot).toNat = 2 ^ slot := by
  have hword : (UInt32.ofNat slot).toNat = slot :=
    UInt32.toNat_ofNat_of_lt' (Nat.lt_trans hslot (by decide))
  have hpow : 2 ^ slot < 2 ^ 32 := Nat.pow_lt_pow_right (by decide) hslot
  rw [UInt32.toNat_shiftLeft, hword, Nat.mod_eq_of_lt hslot, UInt32.toNat_one, Nat.one_shiftLeft,
    Nat.mod_eq_of_lt hpow]

/-- The shifted word finds the bit at its place, up to the top bit of the word. -/
theorem isSelected_eq_testBit (mask : UInt32) (hslot : slot < 32) :
    isSelected mask slot = mask.toNat.testBit slot := by
  have hzero : mask &&& (1 <<< UInt32.ofNat slot) = 0 ↔
      (mask.toNat.testBit slot).toNat * 2 ^ slot = 0 := by
    rw [← UInt32.toNat_inj, UInt32.toNat_and, toNat_shifted hslot, Nat.and_two_pow, UInt32.toNat_zero]
  rw [isSelected, Bool.eq_iff_iff, decide_eq_true_iff, ne_eq, hzero]
  cases mask.toNat.testBit slot <;> simp

/-- The number of set bits of a word, tested one by one. -/
theorem countP_testBit (bits : BitVec n) :
    (List.range n).countP bits.toNat.testBit = bits.cpop.toNat := by
  have hcount (k : Nat) : bits.cpopNatRec k 0 = (List.range k).countP bits.toNat.testBit := by
    induction k with
    | zero => rfl
    | succ k ih =>
        rw [BitVec.cpopNatRec_succ, BitVec.cpopNatRec_add, ih, List.range_succ, List.countP_append,
          List.countP_singleton, BitVec.testBit_toNat]
        cases bits.getLsbD k <;> rfl
  rw [BitVec.toNat_cpop, hcount]

/-! ### What is shown -/

/-- The selected slots are the set bits in order, each with what is in its slot. -/
theorem selected_eq (mask : UInt32) (values : List UInt32) :
    selected mask values =
      ((List.range values.length).filter (isSelected mask)).map fun i => (i, values.getD i 0) := by
  have hslots : values.zipIdx = (List.range values.length).map fun i => (values.getD i 0, i) := by
    apply List.ext_getElem
    · rw [List.length_zipIdx, List.length_map, List.length_range]
    · intro i hi _
      rw [List.length_zipIdx] at hi
      simp [hi]
  rw [selected, hslots, List.filter_map, List.map_map]
  rfl

/-- A list shows the slots of a group that a mask selects: each with its value, in order, and as many
as the mask has set bits. -/
structure Selects {n : Nat} (mask : BitVec n) (slots : Vector UInt32 n) (shown : List (Nat × UInt32)) :
    Prop where
  mem_iff : ∀ i value, (i, value) ∈ shown ↔ ∃ h : i < n, mask.getLsbD i = true ∧ slots[i] = value
  increasing : (shown.map Prod.fst).Pairwise (· < ·)
  length_eq : shown.length = mask.cpop.toNat

theorem selects_selected {bits : BitVec n} {slots : Vector UInt32 n} (hn : n ≤ 32)
    (hbits : mask.toNat = bits.toNat) : Selects bits slots (selected mask slots.toList) := by
  have htest (i : Nat) (hi : i < n) : isSelected mask i = bits.getLsbD i := by
    rw [isSelected_eq_testBit mask (Nat.lt_of_lt_of_le hi hn), hbits, BitVec.testBit_toNat]
  have hfst : (selected mask slots.toList).map Prod.fst =
      (List.range n).filter (isSelected mask) := by
    rw [selected_eq, List.map_map, Vector.length_toList]
    exact List.map_id _
  constructor
  case mem_iff =>
    intro i value
    rw [selected_eq, List.mem_map, Vector.length_toList]
    constructor
    · rintro ⟨j, hj, hpair⟩
      obtain ⟨rfl, hvalue⟩ := Prod.mk.inj hpair
      obtain ⟨hrange, hselected⟩ := List.mem_filter.mp hj
      have hlt := List.mem_range.mp hrange
      refine ⟨hlt, htest j hlt ▸ hselected, ?_⟩
      rw [← hvalue]
      simp [hlt]
    · rintro ⟨hlt, hbit, rfl⟩
      have hmem : i ∈ (List.range n).filter (isSelected mask) :=
        List.mem_filter.mpr ⟨List.mem_range.mpr hlt, (htest i hlt).trans hbit⟩
      exact ⟨i, hmem, by simp [hlt]⟩
  case increasing =>
    rw [hfst]
    exact List.pairwise_lt_range.filter _
  case length_eq =>
    have hcount : (List.range n).countP (isSelected mask) =
        (List.range n).countP bits.toNat.testBit :=
      List.countP_congr fun i hi => by
        rw [htest i (List.mem_range.mp hi), BitVec.testBit_toNat]
    rw [← List.length_map Prod.fst, hfst, ← List.countP_eq_length_filter, hcount, countP_testBit]

/-- Nothing else is shown by the same mask over slots that agree where a bit is set. -/
theorem Selects.unique {bits : BitVec n} {slots others : Vector UInt32 n}
    {shown : List (Nat × UInt32)} {seen : List (Nat × UInt32)} (hshown : Selects bits slots shown)
    (hseen : Selects bits others seen)
    (hsame : ∀ i (h : i < n), bits.getLsbD i = true → others[i] = slots[i]) : seen = shown := by
  have hmem (entry : Nat × UInt32) : entry ∈ seen ↔ entry ∈ shown := by
    rw [hseen.mem_iff, hshown.mem_iff]
    constructor
    · rintro ⟨hlt, hbit, hvalue⟩
      exact ⟨hlt, hbit, (hsame _ hlt hbit).symm.trans hvalue⟩
    · rintro ⟨hlt, hbit, hvalue⟩
      exact ⟨hlt, hbit, (hsame _ hlt hbit).trans hvalue⟩
  have hsorted {entries : List (Nat × UInt32)} (h : (entries.map Prod.fst).Pairwise (· < ·)) :
      entries.Pairwise fun a b => a.1 < b.1 := List.pairwise_map.mp h
  have hperm : seen.Perm shown := by
    apply (List.perm_ext_iff_of_nodup ?_ ?_).mpr hmem
    · exact (hsorted hseen.increasing).imp fun h heq => Nat.ne_of_lt h (congrArg Prod.fst heq)
    · exact (hsorted hshown.increasing).imp fun h heq => Nat.ne_of_lt h (congrArg Prod.fst heq)
  refine hperm.eq_of_pairwise ?_ (hsorted hseen.increasing) (hsorted hshown.increasing)
  intro a b _ _ hab hba
  exact absurd hba (Nat.lt_asymm hab)

namespace Snapshot

theorem selects_standard (s : Snapshot) :
    Selects s.standardMask.toBitVec s.standard s.standardValues :=
  selects_selected (by decide) (UInt16.toNat_toUInt32 s.standardMask)

theorem selects_extended (s : Snapshot) :
    Selects s.extendedMask.toBitVec s.extended s.extendedValues :=
  selects_selected (Nat.le_refl 32) rfl

/-- **Values by mask.** Either group shows exactly the slots whose bits are set, in order and as many as
there are set bits. What is in the other slots makes no difference, and a snapshot shows the same after
the record that holds it has been written and read. -/
theorem values_by_mask (s : Snapshot) :
    Selects s.standardMask.toBitVec s.standard s.standardValues ∧
      Selects s.extendedMask.toBitVec s.extended s.extendedValues ∧
      (∀ t : Snapshot, t.standardMask = s.standardMask →
        (∀ i (h : i < 16), s.standardMask.toBitVec.getLsbD i = true → t.standard[i] = s.standard[i]) →
        t.standardValues = s.standardValues) ∧
      (∀ t : Snapshot, t.extendedMask = s.extendedMask →
        (∀ i (h : i < 32), s.extendedMask.toBitVec.getLsbD i = true → t.extended[i] = s.extended[i]) →
        t.extendedValues = s.extendedValues) ∧
      ∀ h : Header,
        (∃ r, Header.decode { h with channelSnapshot := s }.encode = .ok r ∧
          r.channelSnapshot.standardValues = s.standardValues ∧
          r.channelSnapshot.extendedValues = s.extendedValues) ∧
        ∃ r, Header.decode { h with triggerSnapshot := s }.encode = .ok r ∧
          r.triggerSnapshot.standardValues = s.standardValues ∧
          r.triggerSnapshot.extendedValues = s.extendedValues := by
  refine ⟨s.selects_standard, s.selects_extended, ?_, ?_, fun h => ⟨?_, ?_⟩⟩
  · intro t hmask hsame
    exact s.selects_standard.unique (hmask ▸ t.selects_standard) hsame
  · intro t hmask hsame
    exact s.selects_extended.unique (hmask ▸ t.selects_extended) hsame
  · exact ⟨_, Header.decode_encode { h with channelSnapshot := s }, rfl, rfl⟩
  · exact ⟨_, Header.decode_encode { h with triggerSnapshot := s }, rfl, rfl⟩

/-- Three values of which the mask selects two, and one in the last slot of the other group. -/
def threeValues : Snapshot where
  standardMask := 5
  extendedMask := 0x80000000
  standard := (Vector.replicate 16 0).set 0 11 |>.set 1 22 |>.set 2 33
  extended := (Vector.replicate 32 0).set 31 44

theorem values_by_mask_threeValues :
    threeValues.standardValues = [(0, 11), (2, 33)] ∧ threeValues.extendedValues = [(31, 44)] ∧
      { threeValues with standard := threeValues.standard.set 1 7 }.standardValues =
        threeValues.standardValues := by
  refine ⟨by decide, by decide, ?_⟩
  refine (values_by_mask threeValues).2.2.1 _ rfl ?_
  decide

end Snapshot

end DaqBus.Control
