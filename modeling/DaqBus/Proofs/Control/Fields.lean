import DaqBus.Proofs.Control.Restoring

/-!
# The fields of a record and their places

A record is a table of fields: each stands at a fixed offset, has a fixed size and is a little-endian
number or bytes as they are. Parts of a record are tables of their own, so one table serves both
attribute snapshots and another every extension entry. The decoder reads with a cursor and knows no
offsets. That it finds every field where the table says cannot be seen from a round trip, which would
also succeed if two fields of one size had changed places on both sides.
-/

namespace DaqBus.Control

/-- What a field holds. -/
inductive Content
  | number (value : Nat)
  | raw (bytes : Bytes)
deriving DecidableEq

/-- A field of a record or of a part of one, with its place and what it is once decoded. -/
inductive Field (α : Type)
  | number (offset size : Nat) (value : α → Nat)
  | raw (offset size : Nat) (bytes : α → Bytes)

namespace Field

variable {α β : Type}

def offset : Field α → Nat
  | number offset _ _ => offset
  | raw offset _ _ => offset

def size : Field α → Nat
  | number _ size _ => size
  | raw _ size _ => size

/-- What the field is in something decoded. -/
def content (decoded : α) : Field α → Content
  | number _ _ value => .number (value decoded)
  | raw _ _ bytes => .raw (bytes decoded)

/-- What stands at the place of the field. -/
def read (bs : Bytes) : Field α → Content
  | number offset size _ => .number (Bytes.value (Layout.field bs offset size))
  | raw offset size _ => .raw (Layout.field bs offset size)

/-- A field of a part as a field of the whole, with the place of the part in it. -/
def within (place : Nat) (part : β → α) : Field α → Field β
  | number offset size value => number (place + offset) size fun whole => value (part whole)
  | raw offset size bytes => raw (place + offset) size fun whole => bytes (part whole)

/-- Each field begins where the one before it ends, from `start` up to `stop`. -/
def Contiguous (start : Nat) : List (Field α) → (stop : Nat) → Prop
  | [], stop => start = stop
  | field :: fields, stop => field.offset = start ∧ Contiguous (start + field.size) fields stop

end Field

open DaqBus.Control.Field

/-! ### The tables -/

def Address.fields : List (Field Address) := [
  number 0 2 (·.family.toNat),
  number 2 1 (·.hostType.toNat),
  number 3 1 (·.filler.toNat),
  raw 4 8 (·.hostId.toList),
  number 12 4 (·.deviceId.toNat),
  number 16 2 (·.set.toNat),
  number 18 2 (·.channel.toNat),
  raw 20 12 (·.name.toList)]

def Stamp.fields : List (Field Stamp) := [
  number 0 8 (·.seconds.toNat),
  number 8 8 (·.ticks.toNat),
  number 16 8 (·.bins.toNat)]

/-- One word for each slot of an attribute group. -/
def slotFields {n : Nat} (place : Nat) (slots : Snapshot → Vector UInt32 n) : List (Field Snapshot) :=
  (List.finRange n).map fun i : Fin n => number (place + 4 * i) 4 fun s => ((slots s).get i).toNat

def Snapshot.fields : List (Field Snapshot) :=
  [number 0 2 (·.standardMask.toNat),
   number 2 2 (·.unused.toNat),
   number 4 4 (·.extendedMask.toNat)] ++
  slotFields 8 (·.standard) ++
  slotFields 72 (·.extended)

def Extension.fields : List (Field Extension) := [
  number 0 4 (·.kind.toNat),
  number 4 4 (·.length.toNat),
  raw 8 8 (·.payload.toList)]

/-- The fields before the extension entries. -/
def Header.fixedFields : List (Field Header) :=
  ([number 0 1 (·.major.toNat),
   number 1 1 (·.minor.toNat),
   number 2 1 (·.busAlarms.toNat),
   number 3 1 (·.driverAlarms.toNat),
   number 4 4 (·.sequence.toNat),
   number 8 4 (·.sampleCount.toNat),
   number 12 2 (·.sampleSize.toNat),
   number 14 2 (·.sampleBits.toNat)] : List (Field Header)) ++
  Address.fields.map (within 16 (·.address)) ++
  Stamp.fields.map (within 48 (·.stamp)) ++
  ([number 72 4 (·.memoryOffset.toNat),
   number 76 4 (·.reserved.toNat),
   number 80 4 (·.flags.toNat),
   raw 84 12 (·.trigger.toList)] : List (Field Header)) ++
  Snapshot.fields.map (within 96 (·.channelSnapshot)) ++
  Snapshot.fields.map (within 296 (·.triggerSnapshot))

def Header.entryFields (k : Nat) : List (Field Header) :=
  Extension.fields.map (within (496 + 16 * k) fun h => h.extensions.getD k {})

/-- All fields of a record with a number of extension entries. -/
def Header.fields (entries : Nat) : List (Field Header) :=
  fixedFields ++ (List.range entries).flatMap entryFields

/-! ### Where fields stand -/

namespace Field

variable {α β : Type} {start middle stop : Nat} {fields later : List (Field α)}

theorem content_within (place : Nat) (part : β → α) (field : Field α) (whole : β) :
    (field.within place part).content whole = field.content (part whole) := by
  cases field <;> rfl

theorem read_within (place : Nat) (part : β → α) (field : Field α) (bs : Bytes) :
    (field.within place part).read bs = field.read (bs.drop place) := by
  have hfield := Layout.field_drop bs place
  cases field with
  | number offset size value =>
      exact congrArg (Content.number ∘ Bytes.value) (hfield offset size).symm
  | raw offset size bytes => exact congrArg Content.raw (hfield offset size).symm

theorem contiguous_append (hfields : Contiguous start fields middle)
    (hlater : Contiguous middle later stop) : Contiguous start (fields ++ later) stop := by
  induction fields generalizing start with
  | nil =>
      cases hfields
      exact hlater
  | cons field fields ih => exact ⟨hfields.1, ih hfields.2⟩

theorem Contiguous.within (hfields : Contiguous start fields stop) (place : Nat) (part : β → α) :
    Contiguous (place + start) (fields.map (Field.within place part)) (place + stop) := by
  induction fields generalizing start with
  | nil => exact congrArg (place + ·) hfields
  | cons field fields ih =>
      obtain ⟨hoffset, hrest⟩ := hfields
      have hsame : (field.within place part).offset = place + field.offset ∧
          (field.within place part).size = field.size := by
        cases field <;> exact ⟨rfl, rfl⟩
      refine ⟨by rw [hsame.1, hoffset], ?_⟩
      rw [hsame.2, Nat.add_assoc]
      exact ih hrest

/-- Bytes outside the place of a field have no part in what stands there. -/
theorem read_congr {field : Field α} {bs cs : Bytes}
    (hsame : ∀ i, field.offset ≤ i → i < field.offset + field.size → cs[i]? = bs[i]?) :
    field.read cs = field.read bs := by
  have hfield : Layout.field cs field.offset field.size =
      Layout.field bs field.offset field.size := by
    apply List.ext_getElem?
    intro i
    rw [Layout.field, Layout.field, List.getElem?_take, List.getElem?_take, List.getElem?_drop,
      List.getElem?_drop]
    by_cases hi : i < field.size
    · rw [if_pos hi, if_pos hi]
      exact hsame _ (Nat.le_add_right _ _) (Nat.add_lt_add_left hi _)
    · rw [if_neg hi, if_neg hi]
  cases field with
  | number offset size value => exact congrArg (Content.number ∘ Bytes.value) hfield
  | raw offset size bytes => exact congrArg Content.raw hfield

end Field

/-! ### What the decoder finds there -/

/-- Every field of something decoded is what stands at its place. -/
def Shows {α : Type} (fields : List (Field α)) (bs : Bytes) (decoded : α) : Prop :=
  ∀ field ∈ fields, field.content decoded = field.read bs

section Parts

variable {α β : Type} {fields later : List (Field α)} {bs : Bytes} {decoded : α} {offset size : Nat}

theorem shows_nil : Shows [] bs decoded := fun _ hfield => absurd hfield List.not_mem_nil

theorem shows_number_cons {value : α → Nat} :
    Shows (number offset size value :: fields) bs decoded ↔
      value decoded = Bytes.value (Layout.field bs offset size) ∧ Shows fields bs decoded := by
  rw [Shows, List.forall_mem_cons, content, Field.read, Content.number.injEq, Shows]

theorem shows_raw_cons {bytes : α → Bytes} :
    Shows (raw offset size bytes :: fields) bs decoded ↔
      bytes decoded = Layout.field bs offset size ∧ Shows fields bs decoded := by
  rw [Shows, List.forall_mem_cons, content, Field.read, Content.raw.injEq, Shows]

theorem Shows.append (hfields : Shows fields bs decoded) (hlater : Shows later bs decoded) :
    Shows (fields ++ later) bs decoded := by
  intro field hfield
  rcases List.mem_append.mp hfield with hmem | hmem
  · exact hfields field hmem
  · exact hlater field hmem

theorem Shows.within {place : Nat} {part : β → α} {whole : β}
    (hfields : Shows fields (bs.drop place) (part whole)) :
    Shows (fields.map (within place part)) bs whole := by
  intro field hfield
  obtain ⟨inner, hinner, rfl⟩ := List.mem_map.mp hfield
  rw [content_within, read_within]
  exact hfields inner hinner

end Parts

namespace Layout

variable {bs : Bytes} {offset place : Nat}

theorem toNat_byte (h : offset + 1 ≤ bs.length) :
    (byte bs offset).toNat = Bytes.value (field bs offset 1) :=
  Bytes.toNat_byte (length_field h)

theorem toNat_word16 (h : offset + 2 ≤ bs.length) :
    (word16 bs offset).toNat = Bytes.value (field bs offset 2) :=
  Bytes.toNat_toWord16 (length_field h)

theorem toNat_word32 (h : offset + 4 ≤ bs.length) :
    (word32 bs offset).toNat = Bytes.value (field bs offset 4) :=
  Bytes.toNat_toWord32 (length_field h)

theorem toNat_word64 (h : offset + 8 ≤ bs.length) :
    (word64 bs offset).toNat = Bytes.value (field bs offset 8) :=
  Bytes.toNat_toWord64 (length_field h)

theorem shows_address (h : place + 32 ≤ bs.length) :
    Shows Address.fields (bs.drop place) (address bs place) := by
  simp (disch := omega) only [Address.fields, shows_number_cons, shows_raw_cons, shows_nil, address,
    toNat_word16, toNat_byte, toNat_word32, toList_raw, field_drop, Nat.add_zero, and_self]

theorem shows_stamp (h : place + 24 ≤ bs.length) :
    Shows Stamp.fields (bs.drop place) (stamp bs place) := by
  simp (disch := omega) only [Stamp.fields, shows_number_cons, shows_nil, stamp, toNat_word64, field_drop,
    Nat.add_zero, and_self]

theorem shows_slotFields {n : Nat} {slots : Snapshot → Vector UInt32 n} {s : Snapshot}
    (hslots : slots s = words32 n bs (place + offset)) (h : place + offset + 4 * n ≤ bs.length) :
    Shows (slotFields offset slots) (bs.drop place) s := by
  intro field hfield
  obtain ⟨i, -, rfl⟩ := List.mem_map.mp hfield
  have hlast : place + offset + 4 * i + 4 ≤ bs.length := by
    have := i.isLt
    omega
  have hslot : (slots s).get i = word32 bs (place + offset + 4 * i) := by
    rw [hslots, words32]
    exact Vector.getElem_ofFn i.isLt
  rw [content, Field.read, hslot, toNat_word32 hlast, field_drop, Nat.add_assoc]

theorem shows_snapshot (h : place + 200 ≤ bs.length) :
    Shows Snapshot.fields (bs.drop place) (snapshot bs place) := by
  apply Shows.append
  · apply Shows.append
    · simp (disch := omega) only [shows_number_cons, shows_nil, snapshot, toNat_word16, toNat_word32,
        field_drop, Nat.add_zero, and_self]
    · exact shows_slotFields rfl (by omega)
  · exact shows_slotFields rfl (by omega)

theorem shows_extension (h : place + 16 ≤ bs.length) :
    Shows Extension.fields (bs.drop place) (extension bs place) := by
  simp (disch := omega) only [Extension.fields, shows_number_cons, shows_raw_cons, shows_nil, extension,
    toNat_word32, toList_raw, field_drop, Nat.add_zero, and_self]

theorem shows_fixedFields (h : extensionsOffset ≤ bs.length) :
    Shows Header.fixedFields bs (header bs) := by
  rw [extensionsOffset] at h
  refine .append (.append (.append (.append (.append ?_ ?_) ?_) ?_) ?_) ?_
  · simp (disch := omega) only [shows_number_cons, shows_nil, header, toNat_byte, toNat_word16,
      toNat_word32, and_self]
  · exact .within (shows_address (by omega))
  · exact .within (shows_stamp (by omega))
  · simp (disch := omega) only [shows_number_cons, shows_raw_cons, shows_nil, header, toNat_word32,
      toList_raw, and_self]
  · exact .within (shows_snapshot (by omega))
  · exact .within (shows_snapshot (by omega))

theorem length_extensions (bs : Bytes) :
    (header bs).extensions.length = (bs.length - extensionsOffset) / extensionSize := by
  show ((List.range _).map _).length = _
  rw [List.length_map, List.length_range]

theorem getD_extensions {k : Nat} (hk : k < (header bs).extensions.length) :
    (header bs).extensions.getD k {} = extension bs (496 + 16 * k) := by
  rw [length_extensions] at hk
  show ((List.range _).map fun j => extension bs (496 + 16 * j)).getD k {} = _
  rw [List.getD_eq_getElem?_getD, List.getElem?_map, List.getElem?_range hk]
  rfl

theorem shows_entryFields {k : Nat} (hk : k < (header bs).extensions.length)
    (h : extensionsOffset ≤ bs.length) : Shows (Header.entryFields k) bs (header bs) := by
  apply Shows.within
  rw [getD_extensions hk]
  apply shows_extension
  rw [length_extensions] at hk
  rw [extensionsOffset, extensionSize] at hk
  rw [extensionsOffset] at h
  omega

theorem shows_fields (h : extensionsOffset ≤ bs.length) :
    Shows (Header.fields (header bs).extensions.length) bs (header bs) := by
  refine .append (shows_fixedFields h) ?_
  intro field hfield
  obtain ⟨k, hk, hfield⟩ := List.mem_flatMap.mp hfield
  exact shows_entryFields (List.mem_range.mp hk) h field hfield

end Layout

/-! ### No byte is left out -/

/-- The words after the first one are as many words from the next place on. -/
theorem contiguous_words {α : Type} {n : Nat} (place : Nat) (value : Fin n → α → Nat) :
    Contiguous place ((List.finRange n).map fun i : Fin n => number (place + 4 * i) 4 (value i))
      (place + 4 * n) := by
  induction n generalizing place with
  | zero => rfl
  | succ n ih =>
      have hrest := ih (place + 4) (fun i => value i.succ)
      have hnext (i : Fin n) : place + 4 + 4 * i.val = place + 4 * i.succ.val := by
        rw [Fin.val_succ]
        omega
      have hstop : place + 4 + 4 * n = place + 4 * (n + 1) := by omega
      simp only [hnext, hstop] at hrest
      rw [List.finRange_succ, List.map_cons, List.map_map]
      exact ⟨rfl, hrest⟩

theorem contiguous_slotFields {n : Nat} (place : Nat) (slots : Snapshot → Vector UInt32 n) :
    Contiguous place (slotFields place slots) (place + 4 * n) :=
  contiguous_words place fun i s => ((slots s).get i).toNat

theorem contiguous_snapshot : Contiguous 0 Snapshot.fields 200 :=
  contiguous_append (contiguous_append ⟨rfl, rfl, rfl, rfl⟩ (contiguous_slotFields 8 _))
    (contiguous_slotFields 72 _)

theorem contiguous_fixedFields : Contiguous 0 Header.fixedFields 496 := by
  have haddress : Contiguous 0 Address.fields 32 := ⟨rfl, rfl, rfl, rfl, rfl, rfl, rfl, rfl, rfl⟩
  have hstamp : Contiguous 0 Stamp.fields 24 := ⟨rfl, rfl, rfl, rfl⟩
  refine contiguous_append (contiguous_append (contiguous_append (contiguous_append
    (contiguous_append ?_ (haddress.within 16 _)) (hstamp.within 48 _)) ?_)
    (contiguous_snapshot.within 96 _)) (contiguous_snapshot.within 296 _)
  · exact ⟨rfl, rfl, rfl, rfl, rfl, rfl, rfl, rfl, rfl⟩
  · exact ⟨rfl, rfl, rfl, rfl, rfl⟩

theorem contiguous_fields (entries : Nat) :
    Contiguous 0 (Header.fields entries) (496 + 16 * entries) := by
  refine contiguous_append contiguous_fixedFields ?_
  induction entries with
  | zero => rfl
  | succ entries ih =>
      have hentry : Contiguous 0 Extension.fields 16 := ⟨rfl, rfl, rfl, rfl⟩
      rw [List.range_succ, List.flatMap_append, List.flatMap_singleton]
      exact contiguous_append ih (hentry.within (496 + 16 * entries) _)

namespace Header

/-- **Every field stands at its place.** From enough bytes a record is decoded with as many entries as
are complete. Each of its fields is the number or the bytes at the offset and of the size that the tables
give it; the fields leave out no byte up to the last complete entry, and share none. So whatever else is
written over the other bytes, the field stays what it is. -/
theorem decode_fields (bs : Bytes) (hlength : 512 ≤ bs.length) :
    ∃ h, Header.decode bs = .ok h ∧
      h.extensions.length = (bs.length - 496) / 16 ∧
      (∀ field ∈ fields h.extensions.length, field.content h = field.read bs) ∧
      Contiguous 0 (fields h.extensions.length) (496 + 16 * h.extensions.length) ∧
      ∀ cs : Bytes, cs.length = bs.length →
        ∃ other, Header.decode cs = .ok other ∧
          ∀ field ∈ fields h.extensions.length,
            (∀ i, field.offset ≤ i → i < field.offset + field.size → cs[i]? = bs[i]?) →
            field.content other = field.content h := by
  have hfields (cs : Bytes) (hcs : cs.length = bs.length) :
      Shows (fields (Layout.header bs).extensions.length) cs (Layout.header cs) := by
    rw [Layout.length_extensions, ← hcs, ← Layout.length_extensions]
    apply Layout.shows_fields
    rw [hcs]
    exact Nat.le_trans (by decide) hlength
  refine ⟨Layout.header bs, decode_eq_layout hlength, Layout.length_extensions bs, hfields bs rfl,
    contiguous_fields _, ?_⟩
  intro cs hcs
  refine ⟨Layout.header cs, decode_eq_layout (by rw [hcs]; exact hlength), ?_⟩
  intro field hfield hsame
  calc field.content (Layout.header cs) = field.read cs := hfields cs hcs field hfield
    _ = field.read bs := read_congr hsame
    _ = field.content (Layout.header bs) := (hfields bs rfl field hfield).symm

/-- Zeros with one byte of the sequence number overwritten. -/
theorem decode_fields_overwritten :
    512 ≤ (List.replicate 530 0 : Bytes).length ∧
      ∃ h other, Header.decode (List.replicate 530 0) = .ok h ∧
        Header.decode ((List.replicate 530 0).set 4 9) = .ok other ∧ h.extensions.length = 2 ∧
        other.sequence.toNat = 9 ∧ other.sampleCount = h.sampleCount := by
  have hlength : 512 ≤ (List.replicate 530 0 : Bytes).length := by
    rw [List.length_replicate]
    decide
  have hset : ((List.replicate 530 0 : Bytes).set 4 9).length = (List.replicate 530 0 : Bytes).length :=
    List.length_set
  obtain ⟨h, hdecode, hcount, -, -, hoverwrite⟩ := decode_fields (List.replicate 530 0) hlength
  obtain ⟨other, hother, hkept⟩ := hoverwrite ((List.replicate 530 0).set 4 9) hset
  obtain ⟨found, hfound, -, hread, -⟩ := decode_fields ((List.replicate 530 0).set 4 9) (by rwa [hset])
  cases hother.symm.trans hfound
  refine ⟨hlength, h, other, hdecode, hother, by rw [hcount, List.length_replicate], ?_, ?_⟩
  · have hsequence := hread (.number 4 4 (·.sequence.toNat)) (by simp [fields, fixedFields])
    exact (Content.number.inj hsequence).trans (by decide +kernel)
  · have hsample := hkept (.number 8 4 (·.sampleCount.toNat)) (by simp [fields, fixedFields])
      (fun i hi _ => List.getElem?_set_ne (by rintro rfl; exact absurd hi (by decide)))
    exact UInt32.toNat_inj.mp (Content.number.inj hsample)

end Header

end DaqBus.Control
