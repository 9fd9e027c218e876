import DaqBus.Proofs.Control.RoundTrip
import DaqBus.Proofs.Text.Cutting
import Mathlib.Data.List.TakeWhile

/-!
# The text of a fixed name

A name is cut on bytes and read back as text up to its first zero. So the text is the longest part in
front of the name that fits, unless the last byte of the field goes through a character: the text then
ends in a replacement for it.
-/

namespace DaqBus

open Text.Utf8

namespace Bytes

theorem takeWhile_fit (n : Nat) (bs : Bytes) :
    (fit n bs).takeWhile (· ≠ 0) = (bs.takeWhile (· ≠ 0)).take n := by
  have hfilling (m : Nat) : (List.replicate m (0 : UInt8)).takeWhile (· ≠ 0) = [] := by
    cases m <;> rfl
  rw [fit, List.takeWhile_append, hfilling, List.append_nil, List.take_takeWhile]
  split
  next hwhole =>
    exact ((List.takeWhile_prefix _).eq_of_length hwhole).symm
  next => rfl

theorem toName_ofName (n : Nat) (name : String) :
    toName (ofName n name) = String.ofList (cut n (name.toList.takeWhile (· ≠ '\x00'))) := by
  have hbytes : (ofName n name).toList = fit n (encode name) := rfl
  rw [toName, hbytes, takeWhile_fit, decode, encode, takeWhile_flatMap_utf8EncodeChar,
    decodeChars_take]

end Bytes

namespace Control

variable {name : String} {front : List Char} {c : Char}

/-- The last byte of a name field goes through the character `c` of the name, which stands behind
`front`. -/
structure CutsThrough (name : String) (front : List Char) (c : Char) : Prop
    extends Splits 12 name.toList front c where
  noZero : '\x00' ∉ front

theorem prefix_takeWhile_iff {cs : List Char} :
    front <+: cs.takeWhile (· ≠ '\x00') ↔ front <+: cs ∧ '\x00' ∉ front := by
  constructor
  · intro hlead
    refine ⟨hlead.trans (List.takeWhile_prefix _), fun hmem => ?_⟩
    have hkept := List.mem_takeWhile_imp (hlead.mem hmem)
    exact absurd hkept (by decide)
  · rintro ⟨⟨rest, rfl⟩, hzero⟩
    have hall : ∀ d ∈ front, decide (d ≠ '\x00') = true := fun d hd =>
      decide_eq_true fun h => hzero (h ▸ hd)
    rw [List.takeWhile_append_of_pos hall]
    exact List.prefix_append _ _

theorem splits_takeWhile_iff :
    Splits 12 (name.toList.takeWhile (· ≠ '\x00')) front c ↔ CutsThrough name front c := by
  constructor
  · rintro ⟨hlead, hbegins, hends⟩
    obtain ⟨hlead, hzero⟩ := prefix_takeWhile_iff.mp hlead
    exact ⟨⟨hlead, hbegins, hends⟩, fun hmem => hzero (List.mem_append_left _ hmem)⟩
  · rintro ⟨⟨hlead, hbegins, hends⟩, hzero⟩
    refine ⟨prefix_takeWhile_iff.mpr ⟨hlead, ?_⟩, hbegins, hends⟩
    rw [List.mem_append, List.mem_singleton, not_or]
    refine ⟨hzero, ?_⟩
    rintro rfl
    have hone : Char.utf8Size '\x00' = 1 := by decide
    omega

/-- The text of a field that a name was put into. -/
def shownName (name : String) : String :=
  String.ofList (cut 12 (name.toList.takeWhile (· ≠ '\x00')))

theorem Address.nameText_withName (a : Address) (name : String) :
    (a.withName name).nameText = shownName name :=
  Bytes.toName_ofName 12 name

theorem Header.triggerText_withTrigger (h : Header) (name : String) :
    (h.withTrigger name).triggerText = shownName name :=
  Bytes.toName_ofName 12 name

/-- What fits into the field and has no zero is shown. -/
theorem prefix_shownName (hlead : front <+: name.toList) (hzero : '\x00' ∉ front)
    (hsize : size front ≤ 12) : front <+: (shownName name).toList := by
  rw [shownName, String.toList_ofList]
  exact prefix_cut (prefix_takeWhile_iff.mpr ⟨hlead, hzero⟩) hsize

theorem shownName_of_utf8ByteSize_le (hsize : name.utf8ByteSize ≤ 12) (hzero : '\x00' ∉ name.toList) :
    shownName name = name := by
  have hwhole : name.toList.takeWhile (· ≠ '\x00') = name.toList :=
    List.takeWhile_eq_self_iff.mpr fun c hc => decide_eq_true fun h => hzero (h ▸ hc)
  rw [shownName, hwhole, cut_of_size_le (by rwa [size_toList]), String.ofList_toList]

theorem CutsThrough.toList_shownName (h : CutsThrough name front c) :
    (shownName name).toList = front ++ [replacement] := by
  rw [shownName, String.toList_ofList, (splits_takeWhile_iff.mpr h).cut_eq]

theorem shownName_prefix_iff :
    (shownName name).toList <+: name.toList ↔ ∀ front c, CutsThrough name front c → c = replacement := by
  constructor
  · intro hlead front c h
    rw [h.toList_shownName] at hlead
    exact h.eq_replacement hlead
  · intro hall
    rw [shownName, String.toList_ofList]
    refine (cut_prefix_iff.mpr fun front c h => ?_).trans (List.takeWhile_prefix _)
    exact hall front c (splits_takeWhile_iff.mp h)

/-- **A fixed name shows what fits of the name.** Both name fields show the same text, also after the
record was written and read back. A name without zeros that fits comes back, and all that fits of a
longer one is shown. The text is a prefix of the name as long as the cut goes through no character, else
it ends in a replacement. -/
theorem fixed_name_text (a : Address) (h : Header) (name : String) :
    ∃ text : String,
      ((a.withName name).nameText = text ∧ (h.withName name).address.nameText = text ∧
        (h.withTrigger name).triggerText = text) ∧
      (∀ tail : Bytes, tail.length < extensionSize →
        (∃ g, Header.decode ((h.withName name).encode ++ tail) = .ok g ∧ g.address.nameText = text) ∧
        ∃ g, Header.decode ((h.withTrigger name).encode ++ tail) = .ok g ∧ g.triggerText = text) ∧
      (name.utf8ByteSize ≤ 12 → '\x00' ∉ name.toList → text = name) ∧
      (∀ front, front <+: name.toList → '\x00' ∉ front → size front ≤ 12 → front <+: text.toList) ∧
      (text.toList <+: name.toList ↔ ∀ front c, CutsThrough name front c → c = replacement) ∧
      ∀ front c, CutsThrough name front c → text.toList = front ++ [replacement] := by
  refine ⟨shownName name, ⟨a.nameText_withName name, h.address.nameText_withName name,
    h.triggerText_withTrigger name⟩, fun tail htail => ⟨?_, ?_⟩, shownName_of_utf8ByteSize_le,
    fun front => prefix_shownName, shownName_prefix_iff, fun front c => CutsThrough.toList_shownName⟩
  · exact ⟨_, (h.withName name).decode_append htail, h.address.nameText_withName name⟩
  · exact ⟨_, (h.withTrigger name).decode_append htail, h.triggerText_withTrigger name⟩

theorem fixed_name_text_cut :
    CutsThrough "aaaaaaaaaaaé" "aaaaaaaaaaa".toList 'é' ∧
      (({} : Address).withName "aaaaaaaaaaaé").nameText = "aaaaaaaaaaa\uFFFD" := by
  have hcut : CutsThrough "aaaaaaaaaaaé" "aaaaaaaaaaa".toList 'é' :=
    ⟨⟨by decide, by decide, by decide⟩, by decide⟩
  obtain ⟨text, ⟨hname, -⟩, -, -, -, -, hends⟩ := fixed_name_text {} {} "aaaaaaaaaaaé"
  refine ⟨hcut, ?_⟩
  rw [hname, ← String.toList_inj, hends _ _ hcut]
  rfl

end Control

end DaqBus
