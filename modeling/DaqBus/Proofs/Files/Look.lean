import DaqBus.Proofs.Files.Place
import DaqBus.Proofs.Files.Way

/-!
# Paths without links

Where no name is a link, a walk just looks one name up after the other, and so where a path leads can be
computed.
-/

namespace DaqBus.FileSystem

variable {fs : FileSystem} {names : List Bytes} {path : RawPath}

/-- Where names lead if none of them is a link. -/
def look (fs : FileSystem) : List Bytes → Place → Except Errno Place
  | [], here => .ok here
  | name :: rest, here =>
    match fs.entries? here.node with
    | none => .error .notDirectory
    | some entries =>
      match entries.find? name with
      | none => .error .noEntry
      | some id => fs.look rest ((name, id) :: here)

def LacksLinks (fs : FileSystem) : Prop := ∀ node ∈ fs.nodes, isLink node = false
where
  isLink : FileNode → Bool
    | .link _ => true
    | .file _ _ | .directory _ _ => false

instance (fs : FileSystem) : Decidable fs.LacksLinks :=
  inferInstanceAs (Decidable (∀ node ∈ fs.nodes, _))

/-- A path that a walk follows name by name. -/
def IsPlainPath (path : RawPath) : Prop :=
  path ≠ [] ∧ path.contains 0 = false ∧ path.length < pathLimit ∧
    ∀ name ∈ path.components, name ≠ RawPath.here ∧ name ≠ RawPath.up ∧ name.length ≤ nameLimit

instance (path : RawPath) : Decidable (IsPlainPath path) :=
  inferInstanceAs (Decidable (_ ∧ _ ∧ _ ∧ _))

theorem LacksLinks.node?_ne_link (h : fs.LacksLinks) (id : NodeId) (target : RawPath) :
    fs.node? id ≠ some (.link target) := by
  intro hlink
  cases h _ (List.mem_of_getElem? hlink)

theorem walk_eq_look (hlinks : fs.LacksLinks) (hplain : ∀ name ∈ names, IsPlain name) (links : Nat)
    (here : Place) : (fs.walk true links names here >>= Arrival.place) = fs.look names here := by
  induction names generalizing here with
  | nil =>
      rw [walk]
      rfl
  | cons name rest ih =>
      obtain ⟨hname, hrest⟩ := List.forall_mem_cons.mp hplain
      cases hentries : fs.entries? here.node with
      | none =>
          rw [walk, look, hentries]
          rfl
      | some entries =>
          cases hid : entries.find? name with
          | none =>
              -- A last name that is missing is an arrival of its own, but not at a place.
              obtain ⟨hdot, hup, hshort⟩ := hname
              rw [walk, look, hentries]
              simp only [hdot, hup, Nat.not_lt.mpr hshort, if_false, hid]
              split <;> rfl
          | some id =>
              rw [walk_entry true links rest hentries hname hid (hlinks.node?_ne_link id), ih hrest,
                look, hentries]
              simp only [hid]

theorem resolve_eq_look (hlinks : fs.LacksLinks) (hpath : IsPlainPath path) :
    fs.resolve path = fs.look (path.components) (fs.start path) := by
  obtain ⟨hne, hzero, hlength, hplain⟩ := hpath
  rw [resolve_eq fs ⟨hzero, hlength⟩ hne, walk_eq_look hlinks hplain]

theorem resolve_join_eq_look {name : Bytes} {place : Place} (hlinks : fs.LacksLinks)
    (hplace : fs.resolve path = .ok place) (hpath : RawPath.IsOpen path) (hname : RawPath.IsStep name)
    (hask : RawPath.IsAskable (path.join name)) (hplain : IsPlain name) :
    fs.resolve (path.join name) = fs.look [name] place := by
  obtain ⟨left, hentry⟩ := resolve_join_of_ok hpath hname hask hplace
  rw [hentry]
  exact walk_eq_look hlinks (List.forall_mem_singleton.mpr hplain) left place

/-! ### Canonical paths -/

/-- What all names add to a path is room enough for everything on the way. -/
theorem isShort_of_look {here goal : Place} (hlinks : fs.LacksLinks)
    (hplain : ∀ name ∈ names, IsPlain name) (hlook : fs.look names here = .ok goal)
    (hlength : here.path.length + (names.flatMap (RawPath.slash :: ·)).length + 1 < pathLimit) :
    fs.IsShort (names, here) := by
  induction names generalizing here with
  | nil => exact isShort_nil here
  | cons name rest ih =>
      obtain ⟨hname, hrest⟩ := List.forall_mem_cons.mp hplain
      rw [List.flatMap_cons, List.length_append, List.length_cons] at hlength
      unfold look at hlook
      split at hlook
      next => cases hlook
      next entries hentries =>
        split at hlook
        next => cases hlook
        next id hid =>
          have hasked := here.path.length_join_le name
          have hbelow := Place.length_path_cons_le name id here
          rw [isShort_entry_iff hentries hname hid (hlinks.node?_ne_link id)]
          exact ⟨by omega, fun _ => by omega, ih hrest hlook (by omega)⟩

theorem canonical_eq_look {goal : Place} (hlinks : fs.LacksLinks) (hpath : IsPlainPath path)
    (hlook : fs.look path.components (fs.start path) = .ok goal)
    (hlength : (fs.start path).path.length +
      (path.components.flatMap (RawPath.slash :: ·)).length + 1 < pathLimit) :
    fs.canonical path = some goal.path := by
  obtain ⟨hne, hask, hleads⟩ :=
    resolve_eq_ok_iff.mp ((resolve_eq_look hlinks hpath).trans hlook)
  have hshort : fs.IsShort (fs.course path) := isShort_of_look hlinks hpath.2.2.2 hlook hlength
  exact canonical_eq_some_iff.mpr ⟨⟨hask.no_zero, hne, hshort⟩, goal, hleads, rfl⟩

end DaqBus.FileSystem
