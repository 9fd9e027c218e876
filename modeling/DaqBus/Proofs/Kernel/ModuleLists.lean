import DaqBus.Proofs.Kernel.Opening
import DaqBus.Proofs.Text.Lines
import DaqBus.Proofs.Tree.Content

/-!
# Module lists

A module list is a file with one name on a line. It lists what its lines name, in order and as often as
they do; blanks around a name and blank lines do not count. A list without a name is none at all.
-/

namespace DaqBus.KernelBus

open Text (Names IsLines IsTrimmed IsLineName IsReturn namesOf)

variable {store : KernelBus} {path : String} {content : Bytes}

/-! ### Reading a list -/

theorem attributeText_of_holds (h : Backend.Holds store path content) :
    attributeText store.files path =
      .ok (Text.trimNewlines (Text.Utf8.decode (content.take Backend.textLimit))) := by
  have hread : store.files.readBytes (RawPath.ofText path) Backend.textLimit = _ := h Backend.textLimit
  rw [attributeText_eq, hread]
  rfl

theorem exists_holds_of_attributeText {text : String} (h : attributeText store.files path = .ok text) :
    ∃ content, Backend.Holds store path content := by
  obtain ⟨place, content, mode, hplace, hnode⟩ := isReadable_of_attributeText h
  have hopen : store.files.openNode (RawPath.ofText path) false = .ok place.node := by
    rw [openNode_read, hplace]
    rfl
  exact ⟨content, holds_of_file hopen hnode⟩

theorem map_toList_namesInList (text : String) :
    (namesInList (Text.trimNewlines text)).map String.toList = namesOf text.toList := by
  rw [namesInList, Text.map_toList_trim_lines, Text.namesOf_trimNewlines]

theorem map_toList_inj {names other : List String}
    (h : names.map String.toList = other.map String.toList) : names = other :=
  List.map_injective_iff.mpr (fun _ _ => String.toList_injective) h

/-- The names that content lists. -/
def IsListOf (content : Bytes) (names : List String) : Prop :=
  ∃ lines, IsLines (Backend.textFrom content) lines ∧ Names lines (names.map String.toList)

theorem isListOf_iff {names : List String} :
    IsListOf content names ↔
      namesInList (Text.trimNewlines (Text.Utf8.decode (content.take Backend.textLimit))) = names := by
  rw [IsListOf, Text.exists_isLines_names_iff, Backend.textFrom, ← map_toList_namesInList]
  exact ⟨map_toList_inj, congrArg _⟩

theorem listFile_eq (store : KernelBus) (name : String) :
    store.listFile name =
      match attributeText store.files (store.busRoot.entry name).text with
      | .error _ => .error .noModuleList
      | .ok text => if namesInList text = [] then .error .noModuleList else .ok (namesInList text) := by
  unfold listFile
  rfl

theorem listFile_of_holds {name : String}
    (h : Backend.Holds store (store.busRoot.entry name).text content) {names : List String}
    (hnames : IsListOf content names) :
    store.listFile name = if names = [] then .error .noModuleList else .ok names := by
  rw [listFile_eq, attributeText_of_holds h]
  dsimp only
  rw [isListOf_iff.mp hnames]

theorem listFile_of_unreadable {name : String}
    (h : ¬ ∃ content, Backend.Holds store (store.busRoot.entry name).text content) :
    store.listFile name = .error .noModuleList := by
  rw [listFile_eq]
  cases htext : attributeText store.files (store.busRoot.entry name).text with
  | error code => rfl
  | ok text => exact absurd (exists_holds_of_attributeText htext) h

theorem exists_isListOf (content : Bytes) : ∃ names, IsListOf content names :=
  ⟨_, isListOf_iff.mpr rfl⟩

theorem IsListOf.unique {names other : List String} (h : IsListOf content names)
    (hother : IsListOf content other) : names = other :=
  (isListOf_iff.mp h).symm.trans (isListOf_iff.mp hother)

theorem IsListOf.isTrimmed {names : List String} (h : IsListOf content names) {name : String}
    (hname : name ∈ names) : name ≠ "" ∧ IsTrimmed name.toList := by
  obtain ⟨lines, -, hnames⟩ := h
  obtain ⟨htrimmed, hne⟩ := hnames.isTrimmed (List.mem_map_of_mem hname)
  exact ⟨fun hempty => hne (String.toList_eq_nil_iff.mpr hempty), htrimmed⟩

/-! ### Writing a list -/

/-- What is read of the line end behind the last name. -/
theorem exists_return_feeds {final : String} (hfinal : final ∈ ["", "\n", "\r\n"]) (count : Nat) :
    ∃ last feeds, IsReturn last ∧ (∀ c ∈ feeds, c = '\n') ∧
      (Text.Utf8.encode final).take count = Text.Utf8.encode (String.ofList (last ++ feeds)) := by
  have hnone : IsReturn [] := ⟨by decide, by decide⟩
  have hreturn : IsReturn ['\r'] := ⟨by decide, by decide⟩
  simp only [List.mem_cons, List.not_mem_nil, or_false] at hfinal
  rcases hfinal with rfl | rfl | rfl
  · exact ⟨[], [], hnone, by simp, List.take_nil⟩
  · match count with
    | 0 => exact ⟨[], [], hnone, by simp, rfl⟩
    | count + 1 =>
        exact ⟨[], ['\n'], hnone, by simp, List.take_of_length_le (Nat.le_add_left 1 count)⟩
  · match count with
    | 0 => exact ⟨[], [], hnone, by simp, rfl⟩
    | 1 => exact ⟨['\r'], [], hreturn, by simp, rfl⟩
    | count + 2 =>
        exact ⟨['\r'], ['\n'], hreturn, by simp, List.take_of_length_le (Nat.le_add_left 2 count)⟩

/-- Names that are joined within the limit are all read, whatever ends the last line. -/
theorem isListOf_joined {names : List String} (hne : names ≠ [])
    (hnames : ∀ name ∈ names, IsLineName name.toList) {ending final : String}
    (hending : ending ∈ ["\n", "\r\n"]) (hfinal : final ∈ ["", ending])
    (hsize : (ending.intercalate names).utf8ByteSize ≤ Backend.textLimit) :
    IsListOf (Text.Utf8.encode (ending.intercalate names ++ final)) names := by
  have hfinals : final ∈ ["", "\n", "\r\n"] := by
    simp only [List.mem_cons, List.not_mem_nil, or_false] at hending hfinal ⊢
    rcases hfinal with rfl | rfl
    · exact .inl rfl
    · exact .inr hending
  obtain ⟨back, hback, hcut⟩ : ∃ back, IsReturn back ∧ ending.toList = back ++ ['\n'] := by
    simp only [List.mem_cons, List.not_mem_nil, or_false] at hending
    rcases hending with rfl | rfl
    · exact ⟨[], ⟨by decide, by decide⟩, rfl⟩
    · exact ⟨['\r'], ⟨by decide, by decide⟩, rfl⟩
  have hlength : (Text.Utf8.encode (ending.intercalate names)).length ≤ Backend.textLimit := by
    rwa [Text.Utf8.length_encode]
  obtain ⟨last, feeds, hlast, hfeeds, hread⟩ :=
    exists_return_feeds hfinals
      (Backend.textLimit - (Text.Utf8.encode (ending.intercalate names)).length)
  have htext : Backend.textFrom (Text.Utf8.encode (ending.intercalate names ++ final)) =
      (back ++ ['\n']).intercalate (names.map String.toList) ++ (last ++ feeds) := by
    rw [Backend.textFrom, Text.Utf8.encode_append, List.take_append, List.take_of_length_le hlength,
      hread, ← Text.Utf8.encode_append, Text.Utf8.decode_encode, String.toList_append,
      String.toList_ofList, String.toList_intercalate, hcut]
  rw [IsListOf, Text.exists_isLines_names_iff, htext]
  refine Text.namesOf_joined (by simpa using hne) ?_ hback hlast hfeeds
  intro name hname
  obtain ⟨text, hmem, rfl⟩ := List.mem_map.mp hname
  exact hnames text hmem

/-! ### Lists -/

/-- The lists that are files, and their names below the directory of the bus. -/
def listFiles : List (ModuleKind × String) :=
  [(.buffer, "available_buffers"), (.trigger, "available_triggers")]

theorem modules_eq {kind : ModuleKind} {file : String} (hkind : (kind, file) ∈ listFiles)
    (store : KernelBus) : Backend.modules kind store = (store.listFile file, store) := by
  simp only [listFiles, List.mem_cons, Prod.mk.injEq, List.not_mem_nil, or_false] at hkind
  rcases hkind with ⟨rfl, rfl⟩ | ⟨rfl, rfl⟩ <;> rfl

/-- **What a module list lists.** A list that can be read lists what its lines name, and is refused if
they name nothing, as one that cannot be read is. So no list is empty and no name in it blank. Names that
are written on lines of their own, within what is read of a file, come back. -/
theorem modules_listed (store : KernelBus) {kind : ModuleKind} {file : String}
    (hkind : (kind, file) ∈ listFiles) :
    let path := (store.busRoot.entry file).text
    let listed := (Backend.modules kind store).1
    (∀ content names, Backend.Holds store path content →
      (listed = .ok names ↔ names ≠ [] ∧ IsListOf content names)) ∧
    (∀ code, listed = .error code ↔ code = .noModuleList ∧
      ((¬ ∃ content, Backend.Holds store path content) ∨
        ∃ content, Backend.Holds store path content ∧ IsListOf content [])) ∧
    (∀ names, listed = .ok names → names ≠ [] ∧
      ∀ name ∈ names, name ≠ "" ∧ IsTrimmed name.toList) ∧
    (∀ names, names ≠ [] → (∀ name ∈ names, IsLineName name.toList) →
      ∀ ending ∈ ["\n", "\r\n"], ∀ final ∈ ["", ending],
        (ending.intercalate names).utf8ByteSize ≤ Backend.textLimit →
        Backend.Holds store path (Text.Utf8.encode (ending.intercalate names ++ final)) →
        listed = .ok names) ∧
    (Backend.modules kind store).2 = store := by
  intro path listed
  have hlisted : listed = store.listFile file := congrArg Prod.fst (modules_eq hkind store)
  have hholds {content : Bytes} (h : Backend.Holds store path content) {found : List String}
      (hfound : IsListOf content found) :
      listed = if found = [] then .error .noModuleList else .ok found :=
    hlisted.trans (listFile_of_holds h hfound)
  have hok {content : Bytes} {names : List String} (h : Backend.Holds store path content) :
      listed = .ok names ↔ names ≠ [] ∧ IsListOf content names := by
    obtain ⟨found, hfound⟩ := exists_isListOf content
    rw [hholds h hfound]
    constructor
    · intro heq
      split at heq
      next => cases heq
      next hne =>
        cases heq
        exact ⟨hne, hfound⟩
    · rintro ⟨hne, hnames⟩
      rw [hfound.unique hnames, if_neg hne]
  refine ⟨fun content names h => hok h, ?_, ?_, ?_, congrArg Prod.snd (modules_eq hkind store)⟩
  · intro code
    constructor
    · intro herror
      by_cases hreadable : ∃ content, Backend.Holds store path content
      · obtain ⟨content, h⟩ := hreadable
        obtain ⟨found, hfound⟩ := exists_isListOf content
        rw [hholds h hfound] at herror
        split at herror
        next hnone =>
          cases herror
          exact ⟨rfl, .inr ⟨content, h, hnone ▸ hfound⟩⟩
        next => cases herror
      · rw [hlisted, listFile_of_unreadable hreadable] at herror
        cases herror
        exact ⟨rfl, .inl hreadable⟩
    · rintro ⟨rfl, hunreadable | ⟨content, h, hnone⟩⟩
      · exact hlisted.trans (listFile_of_unreadable hunreadable)
      · exact (hholds h hnone).trans (if_pos rfl)
  · intro names hnames
    by_cases hreadable : ∃ content, Backend.Holds store path content
    · obtain ⟨content, h⟩ := hreadable
      obtain ⟨hne, hlist⟩ := (hok h).mp hnames
      exact ⟨hne, fun name hname => hlist.isTrimmed hname⟩
    · rw [hlisted, listFile_of_unreadable hreadable] at hnames
      cases hnames
  · intro names hne hnames ending hending final hfinal hsize h
    exact (hok h).mpr ⟨hne, isListOf_joined hne hnames hending hfinal hsize⟩

/-- A bus with one list of triggers. -/
def benchListing (text : String) : KernelBus where
  files := { nodes := [.directory (entriesOf [("available_triggers", 1)]) 0o755,
    .file (Text.Utf8.encode text) 0o444] }
  busRoot := RawPath.ofText "/"
  streamRoot := RawPath.ofText "/"

theorem holds_benchListing (text : String) :
    Backend.Holds (benchListing text) ((benchListing text).busRoot.entry "available_triggers").text
      (Text.Utf8.encode text) := by
  have htext : ((benchListing text).busRoot.entry "available_triggers").text =
      "/available_triggers" := by
    have hroot : (benchListing text).busRoot = RawPath.ofText "/" := rfl
    rw [hroot]
    decide +kernel
  rw [htext]
  let path : RawPath := RawPath.ofText "/available_triggers"
  let name : Bytes := RawPath.ofText "available_triggers"
  have hcomponents : path.components = [name] := by decide
  have hnode : (benchListing text).files.node? 1 = some (.file (Text.Utf8.encode text) 0o444) := rfl
  have hroot : (benchListing text).files.entries? (Place.node []) =
      some (entriesOf [("available_triggers", 1)]) := rfl
  have hplain : FileSystem.IsPlain name := by
    unfold FileSystem.IsPlain
    decide
  have hid : (entriesOf [("available_triggers", 1)]).find? name = some 1 := by decide
  have hopen : (benchListing text).files.openNode path false = .ok 1 := by
    rw [openNode_read, FileSystem.resolve_eq _ ⟨by decide, by decide⟩
      (by decide), hcomponents, FileSystem.start, if_pos (by decide),
      FileSystem.walk_entry true _ _ hroot hplain hid (by simp [hnode]), FileSystem.walk]
    rfl
  exact holds_of_file hopen hnode

theorem modules_listed_bench :
    (Backend.modules .trigger (benchListing "user\r\nlong timer\r\nuser")).1 =
        .ok ["user", "long timer", "user"] ∧
      (Backend.modules .trigger (benchListing " \n\t\n")).1 = .error .noModuleList := by
  have htrigger : (ModuleKind.trigger, "available_triggers") ∈ listFiles := by decide
  obtain ⟨-, -, -, hjoined, -⟩ := modules_listed (benchListing "user\r\nlong timer\r\nuser") htrigger
  obtain ⟨-, hrefused, -⟩ := modules_listed (benchListing " \n\t\n") htrigger
  constructor
  · have hnames : ∀ name ∈ ["user", "long timer", "user"],
        name.toList ≠ [] ∧ '\n' ∉ name.toList ∧ IsTrimmed name.toList := by decide
    refine hjoined ["user", "long timer", "user"] (by decide) ?_ "\r\n" (by decide) "" (by decide)
      (by decide) (holds_benchListing _)
    exact fun name hname => ⟨(hnames name hname).1, (hnames name hname).2.1, (hnames name hname).2.2⟩
  · have hblank : IsListOf (Text.Utf8.encode " \n\t\n") [] := by
      rw [IsListOf, Text.exists_isLines_names_iff, Backend.textFrom_encode (by decide)]
      decide
    rw [hrefused]
    exact ⟨rfl, .inr ⟨_, holds_benchListing _, hblank⟩⟩

end DaqBus.KernelBus
