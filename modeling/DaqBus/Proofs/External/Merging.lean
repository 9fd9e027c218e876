import DaqBus.External.Settings
import DaqBus.Proofs.Config.Merging

/-!
# Dictionaries of the library

A merge is looked up key by key, and a document becomes a dictionary with its tables in it. Two keys are
reserved there: a table that holds one of them stands for something else than its entries.
-/

namespace DaqBus.External

open Config

variable {entries : List (String × Value)}

theorem lookup_filter_ne {key other : String} (hne : other ≠ key) :
    (entries.filter fun entry => entry.1 ≠ key).lookup other = entries.lookup other := by
  induction entries with
  | nil => rfl
  | cons entry entries ih =>
      obtain ⟨name, value⟩ := entry
      by_cases hname : name = key
      · rw [List.filter_cons_of_neg (by simpa using hname), ih, lookup_cons_eq_ite,
          if_neg (hname ▸ hne)]
      · rw [List.filter_cons_of_pos (by simpa using hname), lookup_cons_eq_ite, lookup_cons_eq_ite, ih]

/-- The merge looked up at one key; the rest of either dictionary has no part in it. -/
theorem lookup_mergeEntries (earlier later : List (String × Value)) (key : String) :
    (mergeEntries earlier later).lookup key =
      library.joined (earlier.lookup key) (later.lookup key) := by
  induction earlier generalizing later with
  | nil => rfl
  | cons entry earlier ih =>
      obtain ⟨name, value⟩ := entry
      rw [mergeEntries, lookup_cons_eq_ite]
      by_cases hkey : key = name
      · subst hkey
        cases hlater : later.lookup key <;> simp [Library.joined, library]
      · rw [if_neg hkey]
        cases hlater : later.lookup name with
        | none => rw [lookup_cons_eq_ite, if_neg hkey, ih]
        | some other => rw [lookup_cons_eq_ite, if_neg hkey, ih, lookup_filter_ne hkey]

theorem merge_dict {earlier later : Value} {first second : List (String × Value)}
    (hfirst : earlier.entries? = some first) (hsecond : later.entries? = some second) :
    (earlier.merge later).entries? = some (mergeEntries first second) := by
  cases earlier <;> cases hfirst
  cases later <;> cases hsecond
  rw [Value.merge]
  rfl

theorem merge_other {earlier later : Value} (h : ¬ (library.IsDict earlier ∧ library.IsDict later)) :
    earlier.merge later = later := by
  refine Value.merge.eq_2 earlier later fun first second hearlier hlater => h ?_
  rw [hearlier, hlater]
  exact ⟨rfl, rfl⟩

theorem lookup_map {α β : Type} (f : α → β) (entries : List (String × α)) (key : String) :
    (entries.map fun entry => (entry.1, f entry.2)).lookup key = (entries.lookup key).map f := by
  induction entries with
  | nil => rfl
  | cons entry entries ih =>
      rw [List.map_cons, List.lookup_cons, List.lookup_cons, ih]
      cases key == entry.1 <;> rfl

/-! ### Documents -/

namespace Toml

variable {kind : TableKind} {entries : Entries} {items : List (String × Value)} {part : String}

/-- A key of the entries has a value if and only if the entries have the key. -/
theorem map_some_lookup (h : entriesToValues? entries = some items) (key : String) :
    (items.lookup key).map some = (entries.lookup key).map Item.toValue? := by
  induction entries generalizing items with
  | nil =>
      cases h
      rfl
  | cons entry entries ih =>
      obtain ⟨name, item⟩ := entry
      rw [entriesToValues?] at h
      obtain ⟨value, hvalue, hrest⟩ := Option.bind_eq_some_iff.mp h
      obtain ⟨rest, hentries, hitems⟩ := Option.bind_eq_some_iff.mp hrest
      cases hitems
      rw [lookup_cons_eq_ite, lookup_cons_eq_ite]
      by_cases hkey : key = name
      · rw [if_pos hkey, if_pos hkey, Option.map_some, Option.map_some, hvalue]
      · rw [if_neg hkey, if_neg hkey]
        exact ih hentries

/-- The entries of a table and their values, key by key. -/
theorem lookup_values (h : entriesToValues? entries = some items) (key : String) :
    items.lookup key = ((entries.map fun entry => (entry.1, Node.inner entry.2)).lookup key).map
      Node.toValue := by
  have hmap := map_some_lookup h key
  rw [lookup_map]
  cases hkey : entries.lookup key with
  | none =>
      rw [hkey] at hmap
      exact Option.map_eq_none_iff.mp hmap
  | some item =>
      rw [hkey] at hmap
      obtain ⟨value, hvalue, hitem⟩ := Option.map_eq_some_iff.mp hmap
      rw [hvalue, Option.map_some, Option.map_some, Node.toValue, ← hitem]
      rfl

theorem keepsTable_top (h : entriesToValues? entries = some items) :
    library.KeepsTable (.top entries) := by
  rintro _ ⟨⟩
  refine ⟨items, ?_, lookup_values h⟩
  show Value.entries? (.dict ((entriesToValues? entries).getD [])) = some items
  rw [h]
  rfl

/-- A part of a document that has no reserved key, as far as it is a table with a header or dotted
keys. -/
def IsPlain (entries : Entries) (part : String) : Prop :=
  match entries.lookup part with
  | some (.table _ inner) => inner.lookup valueKey = none ∧ inner.lookup originKey = none
  | _ => True

instance (entries : Entries) (part : String) : Decidable (IsPlain entries part) := by
  unfold IsPlain
  split <;> infer_instance

theorem ofEntries?_of_plain (hvalue : items.lookup valueKey = none)
    (horigin : items.lookup originKey = none) : Value.ofEntries? items = some (.dict items) := by
  have hkept : items.filter (fun entry => entry.1 ≠ originKey) = items := by
    apply List.filter_eq_self.mpr
    intro entry hentry
    have hne := bne_iff_ne.mp (List.lookup_eq_none_iff.mp horigin entry hentry)
    exact decide_eq_true hne.symm
  rw [Value.ofEntries?, hvalue, horigin, hkept]
  rfl

theorem lookup_eq_none (h : entriesToValues? entries = some items) {key : String}
    (hkey : entries.lookup key = none) : items.lookup key = none := by
  have hmap := map_some_lookup h key
  rw [hkey] at hmap
  exact Option.map_eq_none_iff.mp hmap

theorem keepsTable_table (h : entriesToValues? entries = some items)
    (hplain : entries.lookup valueKey = none ∧ entries.lookup originKey = none) :
    library.KeepsTable (.inner (.table kind entries)) := by
  have hvalue : Node.toValue (.inner (.table kind entries)) = .dict items := by
    have hentries := ofEntries?_of_plain (lookup_eq_none h hplain.1) (lookup_eq_none h hplain.2)
    rw [Node.toValue, Item.toValue?, h, Option.bind_some, hentries]
    rfl
  rintro _ ⟨⟩
  exact ⟨items, congrArg Value.entries? hvalue, lookup_values h⟩

/-- A table on one line has its reserved keys behind it. -/
theorem keepsTable_value (v : Value) : library.KeepsTable (.inner (.value v)) := by
  intro entries hentries
  cases v <;> cases hentries
  rename_i items
  refine ⟨items, rfl, fun key => ?_⟩
  have hmap := lookup_map (fun value => Node.inner (.value value)) items key
  show items.lookup key = Option.map Node.toValue _
  rw [hmap, Option.map_map]
  exact (Option.map_id_apply).symm

/-- A document that is read is a table in which the reserved keys are in order. -/
theorem parse_eq_ok_iff {text : String} {node : Node} :
    library.parse text = .ok node ↔
      ∃ entries items, document? text = some entries ∧ entriesToValues? entries = some items ∧
        node = .top entries := by
  have hparse : library.parse text = (parse? text).elim (.error .malformed) .ok := rfl
  rw [hparse, parse?]
  constructor
  · intro hread
    cases hdocument : document? text with
    | none =>
        rw [hdocument] at hread
        cases hread
    | some entries =>
        cases hvalues : entriesToValues? entries with
        | none =>
            rw [hdocument, Option.bind_eq_bind, Option.bind_some, hvalues] at hread
            cases hread
        | some items =>
            rw [hdocument, Option.bind_eq_bind, Option.bind_some, hvalues] at hread
            cases hread
            exact ⟨entries, items, rfl, hvalues, rfl⟩
  · rintro ⟨entries, items, hdocument, hvalues, rfl⟩
    rw [hdocument, Option.bind_eq_bind, Option.bind_some, hvalues]
    rfl

theorem keeps_of_isPlain (hitems : entriesToValues? entries = some items)
    (hplain : ∀ part ∈ ["paths", "logging", "acquisition"], IsPlain entries part) :
    library.Keeps (.top entries) := by
  refine ⟨keepsTable_top hitems, fun part hpart table htable => ?_⟩
  obtain ⟨node, hnode, hsame⟩ := Option.bind_eq_some_iff.mp htable
  cases hsame
  have hmapped := (lookup_map Node.inner entries part).symm.trans hnode
  obtain ⟨item, hitem, rfl⟩ := Option.map_eq_some_iff.mp hmapped
  have hpartPlain := hplain part hpart
  have hmap := map_some_lookup hitems part
  rw [IsPlain, hitem] at hpartPlain
  rw [hitem, Option.map_some] at hmap
  cases item with
  | value v => exact keepsTable_value v
  | tables elements => exact nofun
  | table kind inner =>
      obtain ⟨v, -, hv⟩ := Option.map_eq_some_iff.mp hmap
      obtain ⟨rows, hrows, -⟩ := Option.bind_eq_some_iff.mp hv.symm
      exact keepsTable_table hrows hpartPlain

end Toml

end DaqBus.External
