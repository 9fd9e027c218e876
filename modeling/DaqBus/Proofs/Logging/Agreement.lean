import DaqBus.Logging.Options
import Mathlib.Tactic.SplitIfs

/-!
# Two checks of the logging section

The settings are checked before they are used, and the logging section is read once more when the log is
set up. The check has a list of names and joins it in its message; the reader matches the names one by one
and has its messages written out. Nothing but the theorem below keeps the two in step: what the one
accepts the other does, and what they refuse they refuse in the same words.
-/

namespace DaqBus

open Config

namespace Level

theorem ofName?_eq_some_iff {name : String} {level : Level} :
    ofName? name = some level ↔ level.text = name := by
  constructor
  · intro h
    unfold ofName? at h
    split at h <;> cases h <;> rfl
  · rintro rfl
    cases level <;> rfl

theorem mem_all (level : Level) : level ∈ all := by
  cases level <;> decide

theorem mem_names_iff {name : String} : name ∈ all.map text ↔ ∃ level : Level, level.text = name :=
  List.mem_map.trans (exists_congr fun level => and_iff_right (mem_all level))

end Level

namespace LogFormat

theorem ofName?_eq_some_iff {name : String} {format : LogFormat} :
    ofName? name = some format ↔ format.text = name := by
  constructor
  · intro h
    unfold ofName? at h
    split at h <;> cases h <;> rfl
  · rintro rfl
    cases format <;> rfl

theorem mem_all (format : LogFormat) : format ∈ all := by
  cases format <;> decide

theorem mem_names_iff {name : String} :
    name ∈ all.map text ↔ ∃ format : LogFormat, format.text = name :=
  List.mem_map.trans (exists_congr fun format => and_iff_right (mem_all format))

end LogFormat

namespace Config

variable {settings : Settings}

/-- The level of the settings, if their text names one in whatever case. -/
def LogSettings.NamesLevel (settings : LogSettings) (level : Level) : Prop :=
  level.text = Text.lowerCase settings.level

def LogSettings.NamesFormat (settings : LogSettings) (format : LogFormat) : Prop :=
  format.text = Text.lowerCase settings.format

theorem LogSettings.NamesLevel.unique {settings : LogSettings} {level other : Level}
    (hlevel : settings.NamesLevel level) (hother : settings.NamesLevel other) : level = other :=
  Option.some.inj ((Level.ofName?_eq_some_iff.mpr hlevel).symm.trans
    (Level.ofName?_eq_some_iff.mpr hother))

theorem LogSettings.NamesFormat.unique {settings : LogSettings} {format other : LogFormat}
    (hformat : settings.NamesFormat format) (hother : settings.NamesFormat other) : format = other :=
  Option.some.inj ((LogFormat.ofName?_eq_some_iff.mpr hformat).symm.trans
    (LogFormat.ofName?_eq_some_iff.mpr hother))

/-- What is wrong with the roots, if anything. -/
def rootsCheck (paths : PathSettings) : Except Invalid Unit :=
  if paths.busRoot = "" then .error (.emptyPath "paths.sys_root")
  else if paths.streamRoot = "" then .error (.emptyPath "paths.dev_root")
  else .ok ()

theorem check_eq (settings : Settings) :
    settings.check =
      if Text.lowerCase settings.logging.level ∉ Level.all.map Level.text then
        .error (.level settings.logging.level)
      else if Text.lowerCase settings.logging.format ∉ LogFormat.all.map LogFormat.text then
        .error (.format settings.logging.format)
      else rootsCheck settings.paths := by
  obtain ⟨paths, ⟨level, format⟩, acquisition⟩ := settings
  unfold Settings.check rootsCheck
  dsimp only
  split_ifs <;> rfl

theorem check_of_no_level (hlevel : ∀ level, ¬ settings.logging.NamesLevel level) :
    settings.check = .error (.level settings.logging.level) := by
  rw [check_eq, if_pos]
  exact fun h => (Level.mem_names_iff.mp h).elim hlevel

theorem check_of_no_format {level : Level} (hlevel : settings.logging.NamesLevel level)
    (hformat : ∀ format, ¬ settings.logging.NamesFormat format) :
    settings.check = .error (.format settings.logging.format) := by
  have hlevels := Level.mem_names_iff.mpr ⟨level, hlevel⟩
  rw [check_eq, if_neg (not_not_intro hlevels), if_pos]
  exact fun h => (LogFormat.mem_names_iff.mp h).elim hformat

theorem check_of_named {level : Level} {format : LogFormat}
    (hlevel : settings.logging.NamesLevel level) (hformat : settings.logging.NamesFormat format) :
    settings.check = rootsCheck settings.paths := by
  have hlevels := Level.mem_names_iff.mpr ⟨level, hlevel⟩
  have hformats := LogFormat.mem_names_iff.mpr ⟨format, hformat⟩
  rw [check_eq, if_neg (not_not_intro hlevels), if_neg (not_not_intro hformats)]

theorem rootsCheck_eq_ok_iff {paths : PathSettings} :
    rootsCheck paths = .ok () ↔ paths.busRoot ≠ "" ∧ paths.streamRoot ≠ "" := by
  unfold rootsCheck
  split_ifs with hbus hstream <;> simp [*]

theorem exists_rootsCheck_eq_error_iff {paths : PathSettings} :
    (∃ key, rootsCheck paths = .error (.emptyPath key)) ↔
      paths.busRoot = "" ∨ paths.streamRoot = "" := by
  unfold rootsCheck
  split_ifs with hbus hstream <;> simp [*]

/-- The reason is in the logging section. -/
def Invalid.isLogging : Invalid → Bool
  | level _ | format _ => true
  | emptyPath _ => false

theorem isLogging_of_rootsCheck {paths : PathSettings} {reason : Invalid}
    (h : rootsCheck paths = .error reason) : reason.isLogging = false := by
  unfold rootsCheck at h
  split_ifs at h <;> cases h <;> rfl

end Config

namespace LogOptions

variable {settings : LogSettings} {level : Level} {format : LogFormat}

theorem ofText?_level_eq_none (hlevel : ∀ level, ¬ settings.NamesLevel level) :
    Level.ofText? settings.level = none :=
  Option.eq_none_iff_forall_ne_some.mpr fun level h => hlevel level (Level.ofName?_eq_some_iff.mp h)

theorem ofText?_format_eq_none (hformat : ∀ format, ¬ settings.NamesFormat format) :
    LogFormat.ofText? settings.format = none :=
  Option.eq_none_iff_forall_ne_some.mpr fun format h =>
    hformat format (LogFormat.ofName?_eq_some_iff.mp h)

theorem ofSettings_of_no_level (hlevel : ∀ level, ¬ settings.NamesLevel level) :
    ofSettings settings = .error (.level settings.level) := by
  rw [ofSettings, ofText?_level_eq_none hlevel]
  rfl

theorem ofSettings_of_no_format (hlevel : settings.NamesLevel level)
    (hformat : ∀ format, ¬ settings.NamesFormat format) :
    ofSettings settings = .error (.format settings.format) := by
  have hsome : Level.ofText? settings.level = some level := Level.ofName?_eq_some_iff.mpr hlevel
  rw [ofSettings, hsome, ofText?_format_eq_none hformat]
  rfl

theorem ofSettings_of_named (hlevel : settings.NamesLevel level)
    (hformat : settings.NamesFormat format) : ofSettings settings = .ok { level, format } := by
  have hlevels : Level.ofText? settings.level = some level := Level.ofName?_eq_some_iff.mpr hlevel
  have hformats : LogFormat.ofText? settings.format = some format :=
    LogFormat.ofName?_eq_some_iff.mpr hformat
  rw [ofSettings, hlevels, hformats]
  rfl

/-! ### The words of a refusal -/

/-- A message that is put together from a list of names, and the same written out. -/
theorem unknown_eq {what front back : String} {known : List String}
    (hfront : "Invalid log " ++ what ++ " '" = front)
    (hback : "'. Must be one of: " ++ ", ".intercalate known = back) (given : String) :
    Invalid.message.unknown what given known = front ++ given ++ back := by
  rw [← hfront, ← hback]
  exact String.append_assoc

theorem message_level (given : String) :
    (Invalid.level given).message = (Refusal.level given).message :=
  congrArg invalidMessage (unknown_eq (by decide) (by decide) given)

theorem message_format (given : String) :
    (Invalid.format given).message = (Refusal.format given).message :=
  congrArg invalidMessage (unknown_eq (by decide) (by decide) given)

/-! ### Both at once -/

/-- The options have the level and the format that the settings name, and are the default ones
otherwise. -/
structure Named (settings : LogSettings) (options : LogOptions) : Prop where
  level : settings.NamesLevel options.level
  format : settings.NamesFormat options.format
  rest : options = { level := options.level, format := options.format }

/-- How the outcome of a check of all settings and what is chosen by their logging section belong
together. -/
structure Agree (settings : Settings) (checked : Except Invalid Unit)
    (chosen : Except Refusal LogOptions) : Prop where
  chosen_iff : ∀ options, chosen = .ok options ↔ Named settings.logging options
  accepts_iff : (∃ options, chosen = .ok options) ↔
    ∀ reason, checked = .error reason → reason.isLogging = false
  refuses_iff : ∀ message, (∃ refusal, chosen = .error refusal ∧ refusal.message = message) ↔
    ∃ reason, checked = .error reason ∧ reason.isLogging = true ∧ reason.message = message
  level_first : (∀ level, ¬ settings.logging.NamesLevel level) →
    chosen = .error (.level settings.logging.level)
  format_next : (∃ level, settings.logging.NamesLevel level) →
    (∀ format, ¬ settings.logging.NamesFormat format) → chosen = .error (.format settings.logging.format)
  valid_iff : checked = .ok () ↔
    (∃ options, chosen = .ok options) ∧ settings.paths.busRoot ≠ "" ∧ settings.paths.streamRoot ≠ ""
  root_iff : (∃ key, checked = .error (.emptyPath key)) ↔
    (∃ options, chosen = .ok options) ∧ (settings.paths.busRoot = "" ∨ settings.paths.streamRoot = "")

theorem not_named {settings : LogSettings}
    (h : (∀ level, ¬ settings.NamesLevel level) ∨ ∀ format, ¬ settings.NamesFormat format)
    (options : LogOptions) : ¬ Named settings options := by
  rintro ⟨hlevel, hformat, -⟩
  exact h.elim (fun h => h _ hlevel) fun h => h _ hformat

/-- Both refuse for one reason, in the same words. -/
theorem agree_of_refused {settings : Settings} {reason : Invalid} {refusal : Refusal}
    (hlogging : reason.isLogging = true) (hmessage : reason.message = refusal.message)
    (hnone : ∀ options, ¬ Named settings.logging options)
    (hlevel : (∀ level, ¬ settings.logging.NamesLevel level) → refusal = .level settings.logging.level)
    (hformat : (∃ level, settings.logging.NamesLevel level) → refusal = .format settings.logging.format) :
    Agree settings (.error reason) (.error refusal) where
  chosen_iff options := ⟨nofun, fun h => absurd h (hnone options)⟩
  accepts_iff := by simp [hlogging]
  refuses_iff message := by simp [hlogging, hmessage]
  level_first h := congrArg Except.error (hlevel h)
  format_next h _ := congrArg Except.error (hformat h)
  valid_iff := by simp
  root_iff := by
    have hroot (key : String) : reason ≠ .emptyPath key := by
      rintro rfl
      cases hlogging
    simp [hroot]

theorem agree_of_named {settings : Settings} (hlevel : settings.logging.NamesLevel level)
    (hformat : settings.logging.NamesFormat format) :
    Agree settings (rootsCheck settings.paths) (.ok { level, format }) where
  chosen_iff options := by
    constructor
    · rintro h
      cases h
      exact ⟨hlevel, hformat, rfl⟩
    · rintro ⟨hother, hotherFormat, hrest⟩
      rw [hrest, hlevel.unique hother, hformat.unique hotherFormat]
  accepts_iff := ⟨fun _ _ h => isLogging_of_rootsCheck h, fun _ => ⟨_, rfl⟩⟩
  refuses_iff message := by
    constructor
    · rintro ⟨_, h, -⟩
      cases h
    · rintro ⟨reason, h, hlogging, -⟩
      rw [isLogging_of_rootsCheck h] at hlogging
      cases hlogging
  level_first h := absurd hlevel (h level)
  format_next _ h := absurd hformat (h format)
  valid_iff := by
    rw [rootsCheck_eq_ok_iff]
    exact ⟨fun h => ⟨⟨_, rfl⟩, h⟩, And.right⟩
  root_iff := by
    rw [exists_rootsCheck_eq_error_iff]
    exact ⟨fun h => ⟨⟨_, rfl⟩, h⟩, And.right⟩

/-- **Two checks, one verdict.** The logging section is accepted by both or refused by both, for its level
before its format and in the same words. What is accepted has the level and the format that the texts
name in lower case, and beyond the logging section only an empty root is refused. -/
theorem ofSettings_agrees_with_check (settings : Settings) :
    Agree settings settings.check (ofSettings settings.logging) := by
  by_cases hlevel : ∃ level, settings.logging.NamesLevel level
  · obtain ⟨level, hlevel⟩ := hlevel
    by_cases hformat : ∃ format, settings.logging.NamesFormat format
    · obtain ⟨format, hformat⟩ := hformat
      rw [check_of_named hlevel hformat, ofSettings_of_named hlevel hformat]
      exact agree_of_named hlevel hformat
    · have hnone := not_exists.mp hformat
      rw [check_of_no_format hlevel hnone, ofSettings_of_no_format hlevel hnone]
      exact agree_of_refused rfl (message_format _) (not_named (.inr hnone))
        (fun h => absurd hlevel (h level)) fun _ => rfl
  · have hnone := not_exists.mp hlevel
    rw [check_of_no_level hnone, ofSettings_of_no_level hnone]
    exact agree_of_refused rfl (message_level _) (not_named (.inl hnone)) (fun _ => rfl)
      fun h => absurd h hlevel

example : ofSettings { level := "WARN", format := "Json" } = .ok { level := .warn, format := .json } := by
  cbv

end LogOptions

end DaqBus
