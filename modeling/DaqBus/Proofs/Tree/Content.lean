import DaqBus.Kernel.Backend
import DaqBus.Memory.Backend
import DaqBus.Proofs.Text.Register

/-!
# What a file holds

A file that can be read shows every reader the same bytes, cut at what the reader takes. As a number it is
what its first bytes say as text: a numeral with blanks around it, and below the bound. Nothing is read
in part, wrapped or rounded.
-/

namespace DaqBus

section Holds

variable {path : String} {content : Bytes}

/-- The file can be read and has this content. -/
def Backend.Holds {S : Type} [Backend S] (store : S) (path : String) (content : Bytes) : Prop :=
  ∀ limit, (Backend.readRaw path limit store).1 = .ok (content.take limit)

theorem Backend.Holds.readRaw_eq {S : Type} [Backend S] {store : S} (h : Holds store path content)
    (limit : Nat) :
    Backend.readRaw path limit store =
      (.ok (content.take limit), (Backend.readRaw path limit store).2) :=
  Prod.ext (h limit) rfl

theorem MemoryBus.holds_of_file {bus : MemoryBus} (hfailure : bus.failures.find? path = none)
    (hfile : bus.file? path = some content) : Backend.Holds bus path content := by
  intro limit
  obtain ⟨file, hfind, rfl⟩ := Option.map_eq_some_iff.mp hfile
  have hlocate : MemoryBus.locate path bus = (.ok file, bus) := by
    unfold locate check
    simp only [Effect.bind_apply, Effect.get_apply, hfailure, Effect.pure_apply, hfind]
  show (MemoryBus.readRaw path limit bus).1 = _
  unfold readRaw
  rw [Effect.bind_of_ok hlocate]
  rfl

theorem KernelBus.holds_of_file {bus : KernelBus} {id : NodeId} {mode : UInt32}
    (hopen : bus.files.openNode (RawPath.ofText path) false = .ok id)
    (hnode : bus.files.node? id = some (.file content mode)) : Backend.Holds bus path content := by
  intro limit
  have hbind : ∀ next : NodeId → Except Errno Bytes, (Except.ok id >>= next) = next id :=
    fun _ => rfl
  show bus.files.readBytes (RawPath.ofText path) limit = _
  unfold FileSystem.readBytes
  rw [hopen, hbind, hnode]
  rfl

end Holds

/-- The text that content is read as, with the line feeds at its end. -/
def Backend.textFrom (content : Bytes) : List Char :=
  (Text.Utf8.decode (content.take textLimit)).toList

theorem Backend.textFrom_encode {text : String} (hsize : text.utf8ByteSize ≤ textLimit) :
    textFrom (Text.Utf8.encode text) = text.toList := by
  rw [textFrom, Attribute.decode_take_encode hsize]

theorem Attribute.numberOf?_eq_some_iff {content : Bytes} {value : UInt32} :
    numberOf? content = some value ↔ Text.Shows (Backend.textFrom content) value.toNat := by
  rw [numberOf?, textOf, Text.trim_trimNewlines, Text.word32?_trim_eq_some_iff, Backend.textFrom]

namespace Backend

variable {S : Type} [Backend S] {path : String} {content : Bytes} {bus : Bus S}

theorem fst_readText {store : S} (hfile : Holds store path content) :
    (readText path store).1 = .ok (Attribute.textOf content) := by
  unfold readText
  rw [Effect.bind_of_ok (hfile.readRaw_eq textLimit)]
  rfl

theorem fst_readNumber (hfile : Holds bus.store path content) :
    (readNumber path bus).1 =
      match Attribute.numberOf? content with
      | some value => .ok value
      | none => .error .invalidArgument := by
  rw [Attribute.readNumber_of_content (hfile.readRaw_eq textLimit)]
  cases Attribute.numberOf? content <;> rfl

/-- **Which content is a number.** A number is read exactly from the content that shows it, and any
content that shows no number below the bound is refused. What is read is all of what the content
shows. -/
theorem readNumber_accepts (hfile : Holds bus.store path content) :
    (∀ value, (readNumber path bus).1 = .ok value ↔ Text.Shows (textFrom content) value.toNat) ∧
      ((readNumber path bus).1 = .error .invalidArgument ↔
        ∀ n, Text.Shows (textFrom content) n → UInt32.size ≤ n) ∧
      ∀ value n, (readNumber path bus).1 = .ok value → Text.Shows (textFrom content) n →
        value.toNat = n := by
  have hok (value : UInt32) :
      (readNumber path bus).1 = .ok value ↔ Text.Shows (textFrom content) value.toNat := by
    rw [fst_readNumber hfile, ← Attribute.numberOf?_eq_some_iff]
    cases Attribute.numberOf? content <;> simp
  refine ⟨hok, ?_, fun value n hvalue hn => ((hok value).mp hvalue).unique hn⟩
  constructor
  · intro hrefused n hshows
    by_contra hlt
    rw [not_le] at hlt
    rw [← UInt32.toNat_ofNat_of_lt' hlt, ← hok, hrefused] at hshows
    cases hshows
  · intro hlarge
    rw [fst_readNumber hfile]
    cases hnumber : Attribute.numberOf? content with
    | none => rfl
    | some value =>
        exact absurd (hlarge _ (Attribute.numberOf?_eq_some_iff.mp hnumber))
          (not_le.mpr value.toNat_lt)

def benchHolding (text : String) : Bus MemoryBus where
  store := ({} : MemoryBus).setFile "delay" (Text.Utf8.encode text)

theorem holds_benchHolding (text : String) :
    Holds (benchHolding text).store "delay" (Text.Utf8.encode text) :=
  MemoryBus.holds_of_file rfl rfl

theorem readNumber_accepts_bound :
    (readNumber "delay" (benchHolding "\t+0004294967295 \n")).1 = .ok 4294967295 ∧
      (readNumber "delay" (benchHolding "4294967296\n")).1 = .error .invalidArgument := by
  constructor
  · rw [(readNumber_accepts (holds_benchHolding _)).1, textFrom_encode (by decide)]
    have hspells : Text.Spells "+0004294967295".toList 4294967295 :=
      ⟨"0004294967295".toList, .inr (by decide), by decide, List.all_eq_true.mp (by decide), by decide⟩
    exact ⟨_, ⟨['\t'], [' ', '\n'], by decide⟩, hspells⟩
  · rw [(readNumber_accepts (holds_benchHolding _)).2.1, textFrom_encode (by decide)]
    have hspells : Text.Spells "4294967296".toList 4294967296 := .of_digits (by decide) (by decide)
    have hshows : Text.Shows "4294967296\n".toList 4294967296 :=
      ⟨_, ⟨[], ['\n'], by decide⟩, hspells⟩
    exact fun n hn => Nat.le_of_eq (hshows.unique hn)

end Backend

end DaqBus
