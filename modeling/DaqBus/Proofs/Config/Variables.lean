import DaqBus.Proofs.Config.Merging
import Mathlib.Data.List.Basic

/-!
# Variables for single settings

Each variable adds a dictionary with one key in one section to what the variables before it gave. Where
no two variables are for the same key, the one that is for it decides alone what stands there, wherever
it is in the list.
-/

namespace DaqBus.Config.Library

variable {Value Error Document : Type} {lib : Library Value Error Document}
  {environment : List (String × String)} {named : String × String} {earlier : Value} {part key : String}

/-- The value that the variable for a path gives. -/
def named? (lib : Library Value Error Document) (environment : List (String × String))
    (path : List String) : Option Value :=
  (environment.find? fun named => IsNameOf path named.1).map fun named => lib.ofVariable named.2

/-- A variable is for a setting by its name, or for another key of a section, or for nothing. -/
def NamesKey (lib : Library Value Error Document) (named : String × String) : Prop :=
  (∃ path ∈ settingPaths, IsNameOf path named.1) ∨
    ∀ path ∈ lib.keys? nameStart keyMark named.1, path.length = 2 ∧ path ∉ settingPaths

instance (named : String × String) : Decidable (lib.NamesKey named) :=
  inferInstanceAs (Decidable (_ ∨ _))

/-- No setting is named twice. -/
structure NamesSettings (lib : Library Value Error Document) (environment : List (String × String)) :
    Prop where
  keys : ∀ named ∈ environment, lib.NamesKey named
  once : ∀ path ∈ settingPaths, environment.countP (fun named => IsNameOf path named.1) ≤ 1

theorem length_of_mem_settingPaths {path : List String} (hpath : path ∈ settingPaths) :
    path.length = 2 := by
  obtain ⟨entry, -, rfl⟩ := List.mem_map.mp hpath
  rfl

/-- What a variable adds is one key of one section. -/
theorem IsLawful.addVariable_cases (hlib : lib.IsLawful) (hnamed : lib.NamesKey named)
    (earlier : Value) :
    (lib.addVariable nameStart keyMark earlier named = earlier ∧
      ∀ path ∈ settingPaths, ¬ IsNameOf path named.1) ∨
    ∃ first second, lib.addVariable nameStart keyMark earlier named =
        lib.merge earlier (lib.nest [first, second] (lib.ofVariable named.2)) ∧
      ∀ path ∈ settingPaths, IsNameOf path named.1 ↔ [first, second] = path := by
  have hnames {path : List String} (hpath : path ∈ settingPaths) (hname : IsNameOf path named.1) :
      lib.keys? nameStart keyMark named.1 = some path := hlib.keys?_of_isNameOf hpath hname
  cases hkeys : lib.keys? nameStart keyMark named.1 with
  | none =>
      left
      refine ⟨by rw [addVariable, hkeys], fun path hpath hname => ?_⟩
      rw [hnames hpath hname] at hkeys
      cases hkeys
  | some taken =>
      right
      have htaken : taken.length = 2 ∧ ∀ path ∈ settingPaths, IsNameOf path named.1 ↔ taken = path := by
        rcases hnamed with ⟨path, hpath, hname⟩ | hother
        · obtain rfl : path = taken := Option.some.inj ((hnames hpath hname).symm.trans hkeys)
          refine ⟨length_of_mem_settingPaths hpath, fun other hmem => ⟨fun hsame => ?_, ?_⟩⟩
          · exact Option.some.inj (hkeys.symm.trans (hnames hmem hsame))
          · rintro rfl
            exact hname
        · obtain ⟨hlength, hnot⟩ := hother taken hkeys
          refine ⟨hlength, fun path hpath => ⟨fun hname => ?_, ?_⟩⟩
          · exact Option.some.inj (hkeys.symm.trans (hnames hpath hname))
          · rintro rfl
            exact absurd hpath hnot
      obtain ⟨hlength, hiff⟩ := htaken
      obtain ⟨first, second, rfl⟩ := List.length_eq_two.mp hlength
      exact ⟨first, second, by rw [addVariable, hkeys], hiff⟩

theorem IsLawful.hasTable_nest (hlib : lib.IsLawful) (part first second : String) (value : Value) :
    lib.HasTable (lib.nest [first, second] value) part := by
  refine ⟨_, hlib.entries?_single first _, fun inner hinner => ?_⟩
  rw [lookup_cons_eq_ite] at hinner
  by_cases hpart : part = first
  · rw [if_pos hpart] at hinner
    cases hinner
    exact Option.isSome_iff_exists.mpr ⟨_, hlib.entries?_single second value⟩
  · rw [if_neg hpart] at hinner
    cases hinner

theorem IsLawful.at?_nest (hlib : lib.IsLawful) (first second : String) (value : Value) :
    lib.at? (lib.nest [first, second] value) [part, key] =
      if [first, second] = [part, key] then some value else none := by
  have hfirst := hlib.entries?_single first (lib.single second value)
  show lib.at? (lib.single first (lib.single second value)) [part, key] = _
  by_cases hpart : part = first
  · rw [at?_section hfirst ((lookup_cons_eq_ite _ _ _ _).trans (if_pos hpart))
      (hlib.entries?_single second value), lookup_cons_eq_ite]
    simp [hpart, eq_comm]
  · rw [at?_of_lookup_eq_none hfirst ((lookup_cons_eq_ite _ _ _ _).trans (if_neg hpart))]
    simp [Ne.symm hpart]

theorem IsLawful.hasTable_addVariable (hlib : lib.IsLawful) (hnamed : lib.NamesKey named)
    (hearlier : lib.HasTable earlier part) :
    lib.HasTable (lib.addVariable nameStart keyMark earlier named) part := by
  rcases hlib.addVariable_cases hnamed earlier with ⟨hsame, -⟩ | ⟨first, second, hadd, -⟩
  · rw [hsame]
    exact hearlier
  · rw [hadd]
    exact hlib.hasTable_merge hearlier (hlib.hasTable_nest part first second _)

/-- A variable has a part in what stands at its own key only. -/
theorem IsLawful.at?_addVariable (hlib : lib.IsLawful) (hnamed : lib.NamesKey named)
    (hpath : [part, key] ∈ settingPaths) (hearlier : lib.HasTable earlier part) :
    lib.at? (lib.addVariable nameStart keyMark earlier named) [part, key] =
      lib.joined (lib.at? earlier [part, key])
        (if IsNameOf [part, key] named.1 then some (lib.ofVariable named.2) else none) := by
  rcases hlib.addVariable_cases hnamed earlier with ⟨hsame, hnot⟩ | ⟨first, second, hadd, hiff⟩
  · rw [hsame, if_neg (hnot _ hpath), joined_none]
  · rw [hadd, hlib.at?_merge hearlier (hlib.hasTable_nest part first second _), hlib.at?_nest]
    simp only [hiff _ hpath]

theorem named?_cons (lib : Library Value Error Document) (named : String × String)
    (environment : List (String × String)) (path : List String) :
    lib.named? (named :: environment) path =
      if IsNameOf path named.1 then some (lib.ofVariable named.2) else lib.named? environment path := by
  by_cases hname : IsNameOf path named.1
  · rw [if_pos hname, named?, List.find?_cons_of_pos (by simpa using hname)]
    rfl
  · rw [if_neg hname, named?, List.find?_cons_of_neg (by simpa using hname), named?]

theorem named?_eq_none {path : List String}
    (hnone : environment.countP (fun named => IsNameOf path named.1) = 0) :
    lib.named? environment path = none := by
  rw [named?, List.find?_eq_none.mpr, Option.map_none]
  exact List.countP_eq_zero.mp hnone

/-- Variables added one after the other, seen at one key. The induction is on the list, so what is there
already may come from anywhere. -/
theorem IsLawful.at?_addVariables (hlib : lib.IsLawful) (hpath : [part, key] ∈ settingPaths)
    (hkeys : ∀ named ∈ environment, lib.NamesKey named)
    (honce : environment.countP (fun named => IsNameOf [part, key] named.1) ≤ 1)
    (hearlier : lib.HasTable earlier part) :
    lib.HasTable (environment.foldl (lib.addVariable nameStart keyMark) earlier) part ∧
      lib.at? (environment.foldl (lib.addVariable nameStart keyMark) earlier) [part, key] =
        lib.joined (lib.at? earlier [part, key]) (lib.named? environment [part, key]) := by
  induction environment generalizing earlier with
  | nil => exact ⟨hearlier, (joined_none _ _).symm⟩
  | cons named environment ih =>
      obtain ⟨hnamed, hrest⟩ := List.forall_mem_cons.mp hkeys
      have hat := hlib.at?_addVariable hnamed hpath hearlier
      rw [List.countP_cons] at honce
      obtain ⟨htable, hlater⟩ := ih hrest (by omega) (hlib.hasTable_addVariable hnamed hearlier)
      refine ⟨htable, ?_⟩
      rw [List.foldl_cons, hlater, hat, named?_cons]
      by_cases hname : IsNameOf [part, key] named.1
      · rw [if_pos (by simpa using hname)] at honce
        have hzero : environment.countP (fun named => IsNameOf [part, key] named.1) = 0 := by omega
        rw [named?_eq_none hzero, joined_none, if_pos hname]
      · rw [if_neg hname, if_neg hname, joined_none]

theorem IsLawful.ofEnvironment_section (hlib : lib.IsLawful) (hnamed : lib.NamesSettings environment)
    (hpath : [part, key] ∈ settingPaths) :
    lib.HasTable (lib.ofEnvironment nameStart keyMark environment) part ∧
      lib.at? (lib.ofEnvironment nameStart keyMark environment) [part, key] =
        lib.named? environment [part, key] := by
  have hadded := hlib.at?_addVariables hpath hnamed.keys (hnamed.once _ hpath) (hlib.hasTable_empty part)
  rw [hlib.at?_empty, ← hlib.ofEnvironment] at hadded
  exact hadded

end DaqBus.Config.Library
