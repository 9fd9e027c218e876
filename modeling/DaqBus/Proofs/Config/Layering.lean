import DaqBus.Proofs.Config.Variables
import DaqBus.Proofs.External.Lawful

/-!
# Settings from layers

The defaults, the file and the variables are merged into one dictionary and the settings are read from
that. Since the merge goes down to the single keys, each setting is that of a variable, or else that of the
file, or else the default, and nothing that is given for another setting has a part in it.
-/

namespace DaqBus.Config

variable {Value Error Document : Type} {lib : Library Value Error Document} {α β : Type}
  {document : Option Document} {environment : List (String × String)}

theorem Codec.read_imap_eq_ok_iff {codec : Codec Value Error α} {into : α → β} {back : β → α}
    (hback : ∀ b, into (back b) = b) (hinto : ∀ a, back (into a) = a) {value : Value} {b : β} :
    (codec.imap into back).read value = .ok b ↔ codec.read value = .ok (back b) := by
  show into <$> codec.read value = .ok b ↔ _
  cases hread : codec.read value with
  | error failure => exact ⟨nofun, nofun⟩
  | ok a =>
      constructor
      · rintro ⟨⟩
        rw [hinto]
      · rintro ⟨⟩
        exact congrArg Except.ok (hback b)

namespace Library

variable {value : Value} {part name : String}

/-! ### The layer of the defaults -/

/-- What a record writes is read back at its sections, which are records again. -/
theorem IsLawful.written_section (hlib : lib.IsLawful) {σ τ : Type} {fields : Fields Value Error σ}
    {r : σ} {inner : Fields Value Error τ} {s : τ}
    (hpart : fields.written? r part = some (lib.writeRecord inner s)) :
    lib.HasTable (lib.writeRecord fields r) part ∧
      ∀ key, lib.at? (lib.writeRecord fields r) [part, key] = inner.written? s key := by
  obtain ⟨entries, hentries, hlookup⟩ := hlib.writeRecord fields r
  obtain ⟨items, hitems, hkeys⟩ := hlib.writeRecord inner s
  have hfound : entries.lookup part = some (lib.writeRecord inner s) := (hlookup part).trans hpart
  refine ⟨⟨entries, hentries, fun value hvalue => ?_⟩, fun key => ?_⟩
  · obtain rfl : lib.writeRecord inner s = value := Option.some.inj (hfound.symm.trans hvalue)
    exact Option.isSome_iff_exists.mpr ⟨items, hitems⟩
  · rw [at?_section hentries hfound hitems, hkeys]

/-! ### The layer of the file -/

/-- What a file says at a path. -/
def written? (lib : Library Value Error Document) (document : Option Document) (path : List String) :
    Option Value :=
  document.bind fun table => (lookupAt lib.table? table path).map lib.ofDocument

/-- A file with the sections as tables. Without a file there are no sections. -/
structure IsInOrder (lib : Library Value Error Document) (table : Document) : Prop where
  isTable : (lib.table? table).isSome
  sections : lib.HasTables table
  keeps : lib.Keeps table

theorem IsLawful.file_section (hlib : lib.IsLawful)
    (hdocument : ∀ table ∈ document, lib.IsInOrder table)
    (hpart : part ∈ ["paths", "logging", "acquisition"]) :
    lib.HasTable (document.elim lib.empty lib.ofDocument) part ∧
      ∀ key, lib.at? (document.elim lib.empty lib.ofDocument) [part, key] =
        lib.written? document [part, key] := by
  cases document with
  | none => exact ⟨hlib.hasTable_empty part, hlib.at?_empty part⟩
  | some table =>
      obtain ⟨hisTable, hsections, hkeeps⟩ := hdocument table rfl
      obtain ⟨entries, hentries⟩ := Option.isSome_iff_exists.mp hisTable
      obtain ⟨items, hitems, hlookup⟩ := hkeeps.top entries hentries
      show lib.HasTable (lib.ofDocument table) part ∧ ∀ key, lib.at? (lib.ofDocument table) _ = _
      cases hfound : entries.lookup part with
      | none =>
          have hnone : items.lookup part = none := by rw [hlookup, hfound, Option.map_none]
          refine ⟨⟨items, hitems, fun value hvalue => ?_⟩, fun key => ?_⟩
          · rw [hnone] at hvalue
            cases hvalue
          · rw [at?_of_lookup_eq_none hitems hnone]
            simp [written?, lookupAt, hentries, hfound]
      | some inner =>
          have hsome : items.lookup part = some (lib.ofDocument inner) := by
            rw [hlookup, hfound, Option.map_some]
          have hinner : inner ∈ lookupAt lib.table? table [part] := by
            simp [lookupAt, hentries, hfound]
          obtain ⟨rows, hrows⟩ := Option.isSome_iff_exists.mp (hsections part hpart inner hinner)
          obtain ⟨cells, hcells, hkeys⟩ := hkeeps.sections part hpart inner hinner rows hrows
          refine ⟨⟨items, hitems, fun value hvalue => ?_⟩, fun key => ?_⟩
          · obtain rfl : lib.ofDocument inner = value := Option.some.inj (hsome.symm.trans hvalue)
            exact Option.isSome_iff_exists.mpr ⟨cells, hcells⟩
          · rw [at?_section hitems hsome hcells, hkeys]
            simp [written?, lookupAt, hentries, hfound, hrows]

/-! ### Reading a section -/

/-- A setting is read from the layers above its default. -/
theorem IsLawful.takes_joined (hlib : lib.IsLawful) {codec : Codec Value Error α}
    (hcodec : lib.IsScalar codec) {byDefault : α} {found earlier later : Option Value}
    (hfound : found = lib.joined (lib.joined (some (codec.write byDefault)) earlier) later) (a : α) :
    codec.Takes byDefault found a ↔ codec.Takes byDefault (later.or earlier) a := by
  rw [← hlib.read_joined hcodec, ← hfound]
  cases found with
  | some value => simp [Codec.Takes]
  | none => exact absurd hfound.symm (joined_ne_none lib _ _ _)

/-- The section with two settings. -/
def pair (first : Codec Value Error α) (firstKey : String) (a : α) (second : Codec Value Error β)
    (secondKey : String) (b : β) : Fields Value Error (α × β) :=
  .more (first.field firstKey a) (.last (second.field secondKey b))

/-- A section is read setting by setting. It is there, since its defaults are. -/
theorem IsLawful.read_section (hlib : lib.IsLawful) {first : Codec Value Error α}
    {second : Codec Value Error β} {firstKey secondKey : String} {a₀ : α} {b₀ : β}
    (hfirst : lib.IsScalar first) (hsecond : lib.IsScalar second) (hne : secondKey ≠ firstKey)
    (htable : lib.HasTable value part) (earlier later : String → Option Value)
    (hat : ∀ key ∈ [firstKey, secondKey], lib.at? value [part, key] =
      lib.joined (lib.joined ((pair first firstKey a₀ second secondKey b₀).written? (a₀, b₀) key)
        (earlier key)) (later key)) :
    ∃ entries inner, lib.entries? value = some entries ∧ entries.lookup part = some inner ∧
      ∀ a b, (lib.record name (pair first firstKey a₀ second secondKey b₀)).read inner = .ok (a, b) ↔
        first.Takes a₀ ((later firstKey).or (earlier firstKey)) a ∧
        second.Takes b₀ ((later secondKey).or (earlier secondKey)) b := by
  have hone := hat firstKey (by simp)
  have hother := hat secondKey (by simp)
  simp only [pair, Fields.written?, Codec.field, if_true, hne, if_false] at hone hother
  obtain ⟨entries, hentries, hnone | ⟨inner, items, hinner, hitems⟩⟩ := htable.cases
  · rw [at?_of_lookup_eq_none hentries hnone] at hone
    exact absurd hone.symm (joined_ne_none lib _ _ _)
  · refine ⟨entries, inner, hentries, hinner, fun a b => ?_⟩
    rw [at?_section hentries hinner hitems] at hone hother
    rw [← hlib.takes_joined hfirst hone, ← hlib.takes_joined hsecond hother]
    exact hlib.readRecord hitems name (pair first firstKey a₀ second secondKey b₀) (a, b)

/-! ### Loading -/

/-- The value that is given at a path: that of a variable comes before that of the file. -/
def given? (lib : Library Value Error Document) (document : Option Document)
    (environment : List (String × String)) (path : List String) : Option Value :=
  (lib.named? environment path).or (lib.written? document path)

/-- Each setting is read from what is given at its own path, and is the default if nothing is. -/
structure Layered (lib : Library Value Error Document) (given : List String → Option Value)
    (settings : Settings) : Prop where
  busRoot : lib.path.Takes "/sys/bus/zio" (given ["paths", "sys_root"]) settings.paths.busRoot
  streamRoot : lib.path.Takes "/dev/zio" (given ["paths", "dev_root"]) settings.paths.streamRoot
  level : lib.text.Takes "info" (given ["logging", "level"]) settings.logging.level
  format : lib.text.Takes "pretty" (given ["logging", "format"]) settings.logging.format
  maxSweeps : lib.optionalNumber.Takes none (given ["acquisition", "max_sweeps"])
    settings.acquisition.maxSweeps
  idleBackoff : lib.number.Takes 0 (given ["acquisition", "idle_backoff_ms"])
    settings.acquisition.idleBackoff

instance (given : List String → Option Value) (settings : Settings) :
    Decidable (lib.Layered given settings) :=
  decidable_of_iff (_ ∧ _ ∧ _ ∧ _ ∧ _ ∧ _)
    ⟨fun h => ⟨h.1, h.2.1, h.2.2.1, h.2.2.2.1, h.2.2.2.2.1, h.2.2.2.2.2⟩,
      fun h => ⟨h.busRoot, h.streamRoot, h.level, h.format, h.maxSweeps, h.idleBackoff⟩⟩

/-- The three layers merged. -/
def layers (lib : Library Value Error Document) (document : Option Document)
    (environment : List (String × String)) : Value :=
  lib.merge (lib.merge (lib.settings.write {}) (document.elim lib.empty lib.ofDocument))
    (lib.ofEnvironment nameStart keyMark environment)

/-- The sections as fields of one record. -/
def sections (lib : Library Value Error Document) :
    Fields Value Error (PathSettings × LogSettings × RunSettings) :=
  .more (lib.paths.field "paths" {})
    (.more (lib.logging.field "logging" {}) (.last (lib.acquisition.field "acquisition" {})))

/-- The three layers, read at a section. -/
theorem IsLawful.read_part (hlib : lib.IsLawful)
    (hdocument : ∀ table ∈ document, lib.IsInOrder table) (hnamed : lib.NamesSettings environment)
    (name : String) {first : Codec Value Error α} {second : Codec Value Error β} {a₀ : α} {b₀ : β}
    {firstKey secondKey : String} (hfirst : lib.IsScalar first) (hsecond : lib.IsScalar second)
    (hwritten : lib.sections.written? ({}, {}, {}) part =
      some (lib.writeRecord (pair first firstKey a₀ second secondKey b₀) (a₀, b₀)))
    (hkeys : secondKey ≠ firstKey ∧ part ∈ ["paths", "logging", "acquisition"] ∧
      ∀ key ∈ [firstKey, secondKey], [part, key] ∈ settingPaths) :
    ∃ entries inner, lib.entries? (lib.layers document environment) = some entries ∧
      entries.lookup part = some inner ∧
      ∀ a b, (lib.record name (pair first firstKey a₀ second secondKey b₀)).read inner = .ok (a, b) ↔
        first.Takes a₀ (lib.given? document environment [part, firstKey]) a ∧
        second.Takes b₀ (lib.given? document environment [part, secondKey]) b := by
  obtain ⟨hne, hpart, hpaths⟩ := hkeys
  have hdefaults : lib.settings.write {} = lib.writeRecord lib.sections ({}, {}, {}) := rfl
  obtain ⟨hdefaultTable, hdefaultAt⟩ := hlib.written_section hwritten
  rw [← hdefaults] at hdefaultTable hdefaultAt
  obtain ⟨hfileTable, hfileAt⟩ := hlib.file_section hdocument hpart
  have hvariableTable := (hlib.ofEnvironment_section hnamed (hpaths _ List.mem_cons_self)).1
  have hlower := hlib.hasTable_merge hdefaultTable hfileTable
  refine hlib.read_section hfirst hsecond hne (hlib.hasTable_merge hlower hvariableTable)
    (fun key => lib.written? document [part, key]) (fun key => lib.named? environment [part, key])
    fun key hkey => ?_
  rw [hlib.at?_merge hlower hvariableTable, hlib.at?_merge hdefaultTable hfileTable, hdefaultAt,
    hfileAt, (hlib.ofEnvironment_section hnamed (hpaths key hkey)).2]

theorem IsLawful.read_layers (hlib : lib.IsLawful)
    (hdocument : ∀ table ∈ document, lib.IsInOrder table) (hnamed : lib.NamesSettings environment)
    (settings : Settings) :
    lib.settings.read (lib.layers document environment) = .ok settings ↔
      lib.Layered (lib.given? document environment) settings := by
  obtain ⟨entries, paths, hentries, hpaths, hreadPaths⟩ :=
    hlib.read_part hdocument hnamed "PathsConfig" hlib.path hlib.path
      (show lib.sections.written? ({}, {}, {}) "paths" = some (lib.writeRecord
        (pair lib.path "sys_root" "/sys/bus/zio" lib.path "dev_root" "/dev/zio") _) from rfl) (by decide)
  obtain ⟨_, logging, hsame, hlogging, hreadLogging⟩ :=
    hlib.read_part hdocument hnamed "LoggingConfig" hlib.text hlib.text
      (show lib.sections.written? ({}, {}, {}) "logging" = some (lib.writeRecord
        (pair lib.text "level" "info" lib.text "format" "pretty") _) from rfl) (by decide)
  cases hentries.symm.trans hsame
  obtain ⟨_, acquisition, hsame, hacquisition, hreadAcquisition⟩ :=
    hlib.read_part hdocument hnamed "AcquisitionSettings" hlib.optionalNumber hlib.number
      (show lib.sections.written? ({}, {}, {}) "acquisition" = some (lib.writeRecord
        (pair lib.optionalNumber "max_sweeps" none lib.number "idle_backoff_ms" 0) _) from rfl)
      (by decide)
  cases hentries.symm.trans hsame
  have hread : lib.settings.read (lib.layers document environment) = .ok settings ↔
      lib.paths.read paths = .ok settings.paths ∧ lib.logging.read logging = .ok settings.logging ∧
        lib.acquisition.read acquisition = .ok settings.acquisition := by
    rw [Library.settings, Codec.read_imap_eq_ok_iff (fun _ => rfl) (fun _ => rfl)]
    refine (hlib.readRecord hentries "ZioConfig" lib.sections _).trans ?_
    simp only [sections, Fields.Takes, Field.Takes, Codec.field, hpaths, hlogging, hacquisition]
    rfl
  have hsections : (lib.paths.read paths = .ok settings.paths ↔ _) ∧
      (lib.logging.read logging = .ok settings.logging ↔ _) ∧
      (lib.acquisition.read acquisition = .ok settings.acquisition ↔ _) :=
    ⟨(Codec.read_imap_eq_ok_iff (fun _ => rfl) (fun _ => rfl)).trans (hreadPaths _ _),
      (Codec.read_imap_eq_ok_iff (fun _ => rfl) (fun _ => rfl)).trans (hreadLogging _ _),
      (Codec.read_imap_eq_ok_iff (fun _ => rfl) (fun _ => rfl)).trans (hreadAcquisition _ _)⟩
  rw [hread, hsections.1, hsections.2.1, hsections.2.2]
  constructor
  · rintro ⟨⟨hbus, hstream⟩, ⟨hlevel, hformat⟩, hmax, hidle⟩
    exact ⟨hbus, hstream, hlevel, hformat, hmax, hidle⟩
  · intro h
    exact ⟨⟨h.busRoot, h.streamRoot⟩, ⟨h.level, h.format⟩, h.maxSweeps, h.idleBackoff⟩

/-- Something can be read wherever a value is given for it. -/
theorem exists_takes_iff {codec : Codec Value Error α} {byDefault : α} {given : Option Value} :
    (∃ a, codec.Takes byDefault given a) ↔ ∀ value ∈ given, ∃ a, codec.read value = .ok a := by
  cases given with
  | none => exact ⟨fun _ => nofun, fun _ => ⟨byDefault, rfl⟩⟩
  | some value => simp [Codec.Takes]

/-- Every value that is given for a setting can be read. -/
structure CanRead (lib : Library Value Error Document) (given : List String → Option Value) :
    Prop where
  busRoot : ∀ value ∈ given ["paths", "sys_root"], ∃ a, lib.path.read value = .ok a
  streamRoot : ∀ value ∈ given ["paths", "dev_root"], ∃ a, lib.path.read value = .ok a
  level : ∀ value ∈ given ["logging", "level"], ∃ a, lib.text.read value = .ok a
  format : ∀ value ∈ given ["logging", "format"], ∃ a, lib.text.read value = .ok a
  maxSweeps : ∀ value ∈ given ["acquisition", "max_sweeps"],
    ∃ a, lib.optionalNumber.read value = .ok a
  idleBackoff : ∀ value ∈ given ["acquisition", "idle_backoff_ms"], ∃ a, lib.number.read value = .ok a

theorem exists_layered_iff {given : List String → Option Value} :
    (∃ settings, lib.Layered given settings) ↔ lib.CanRead given := by
  constructor
  · rintro ⟨settings, h⟩
    exact ⟨exists_takes_iff.mp ⟨_, h.busRoot⟩, exists_takes_iff.mp ⟨_, h.streamRoot⟩,
      exists_takes_iff.mp ⟨_, h.level⟩, exists_takes_iff.mp ⟨_, h.format⟩,
      exists_takes_iff.mp ⟨_, h.maxSweeps⟩, exists_takes_iff.mp ⟨_, h.idleBackoff⟩⟩
  · intro h
    obtain ⟨busRoot, hbus⟩ := exists_takes_iff.mpr h.busRoot
    obtain ⟨streamRoot, hstream⟩ := exists_takes_iff.mpr h.streamRoot
    obtain ⟨level, hlevel⟩ := exists_takes_iff.mpr h.level
    obtain ⟨format, hformat⟩ := exists_takes_iff.mpr h.format
    obtain ⟨maxSweeps, hmax⟩ := exists_takes_iff.mpr h.maxSweeps
    obtain ⟨idleBackoff, hidle⟩ := exists_takes_iff.mpr h.idleBackoff
    exact ⟨⟨⟨busRoot, streamRoot⟩, ⟨level, format⟩, ⟨maxSweeps, idleBackoff⟩⟩,
      hbus, hstream, hlevel, hformat, hmax, hidle⟩

/-- **Layers of settings.** Whatever library keeps its promises: each setting is what a variable gives for
it, or else what the file gives, or else the default, whatever is given for the other settings. The
settings are loaded exactly if every value that is given can be read, so one that is not given is never in
the way. -/
theorem load_layered {file : Option String} (hlib : lib.IsLawful)
    (hfile : lib.document? file = .ok document) (hsections : ∀ table ∈ document, lib.HasTables table)
    (hkeeps : ∀ table ∈ document, lib.Keeps table) (hnamed : lib.NamesSettings environment) :
    (∀ settings, lib.load file environment = .ok settings ↔
      lib.Layered (lib.given? document environment) settings) ∧
    ((∃ settings, lib.load file environment = .ok settings) ↔
      lib.CanRead (lib.given? document environment)) := by
  have hdocument : ∀ table ∈ document, lib.IsInOrder table := by
    intro table htable
    refine ⟨?_, hsections table htable, hkeeps table htable⟩
    cases file with
    | none =>
        cases hfile
        cases htable
    | some text =>
        cases hparse : lib.parse text with
        | error failure =>
            rw [document?, hparse] at hfile
            cases hfile
        | ok parsed =>
            rw [document?, hparse] at hfile
            cases hfile
            cases htable
            exact hlib.table?_of_parse hparse
  have hload : lib.load file environment = lib.settings.read (lib.layers document environment) := by
    rw [load, hfile]
    rfl
  have hread (settings : Settings) : lib.load file environment = .ok settings ↔
      lib.Layered (lib.given? document environment) settings := by
    rw [hload]
    exact hlib.read_layers hdocument hnamed settings
  exact ⟨hread, (exists_congr hread).trans exists_layered_iff⟩

/-- A file with two sections, one of them with a key that is no setting. -/
def benchFile : String :=
  "[paths]\nsys_root = \"/tmp/zio\"\n\n[acquisition]\nmax_sweeps = 5\nrate = 1.5\n"

/-- A variable for what the file gives too, one for nothing, and one for what only it gives. -/
def benchVariables : List (String × String) := [
  ("RUST_ZIO_ACQUISITION__MAX_SWEEPS", "9"),
  ("HOME", "/root"),
  ("rust_zio_logging__level", "debug")]

def benchSettings : Settings where
  paths := { busRoot := "/tmp/zio" }
  logging := { level := "debug" }
  acquisition := { maxSweeps := some 9 }

theorem load_layered_bench : External.library.IsLawful ∧
    External.library.NamesSettings benchVariables ∧
    ∃ document, External.library.document? (some benchFile) = .ok (some document) ∧
      External.library.HasTables document ∧ External.library.Keeps document ∧
      External.library.load (some benchFile) benchVariables = .ok benchSettings := by
  have hlib := External.isLawful_library
  have hnamed : External.library.NamesSettings benchVariables := ⟨by decide +kernel, by decide +kernel⟩
  have hread : ((External.Toml.document? benchFile).any fun entries => decide (
      (External.Toml.entriesToValues? entries).isSome ∧
      (∀ part ∈ ["paths", "logging", "acquisition"], External.Toml.IsPlain entries part) ∧
      External.library.HasTables (.top entries) ∧
      External.library.Layered (External.library.given? (some (.top entries)) benchVariables)
        benchSettings)) = true := by
    decide +kernel
  obtain ⟨entries, hentries, hholds⟩ := Option.any_eq_true _ _ |>.mp hread
  obtain ⟨hvalues, hplain, hsections, hlayered⟩ := of_decide_eq_true hholds
  obtain ⟨items, hitems⟩ := Option.isSome_iff_exists.mp hvalues
  have hkeeps := External.Toml.keeps_of_isPlain hitems hplain
  have hparse : External.library.parse benchFile = .ok (.top entries) :=
    External.Toml.parse_eq_ok_iff.mpr ⟨entries, items, hentries, hitems, rfl⟩
  have hfile : External.library.document? (some benchFile) = .ok (some (.top entries)) :=
    congrArg (some <$> ·) hparse
  have hload := load_layered hlib hfile (fun _ h => Option.some.inj h ▸ hsections)
    (fun _ h => Option.some.inj h ▸ hkeeps) hnamed
  exact ⟨hlib, hnamed, _, hfile, hsections, hkeeps, (hload.1 _).mpr hlayered⟩

end Library

end DaqBus.Config
