import DaqBus.Proofs.Files.Place
import DaqBus.Proofs.Kernel.Listed

/-!
# Places that are reached

Where a way ends, it has come by names of entries that are no links. So the path of a place, which is
made of these names, leads to the place again, as long as it can be asked for at all. It can be if
everything on the way could.
-/

namespace DaqBus.FileSystem

variable {fs : FileSystem} {place here goal : Place} {entries : Table Bytes NodeId} {name : Bytes}
  {path : RawPath} {id : NodeId} {used : Nat} {course next : Course}

/-- A place that is reached from the root by the names of entries that are no links. -/
inductive IsReached (fs : FileSystem) : Place → Prop
  | root : IsReached fs []
  | entry {place : Place} {entries : Table Bytes NodeId} {name : Bytes} {id : NodeId}
      (above : IsReached fs place)
      (hentries : fs.entries? place.node = some entries) (hid : entries.find? name = some id)
      (hname : RawPath.IsEntryName name) (hshort : name.length ≤ nameLimit)
      (hlink : ∀ target, fs.node? id ≠ some (.link target)) :
      IsReached fs ((name, id) :: place)

theorem IsReached.isStep (h : fs.IsReached place) : ∀ step ∈ place, RawPath.IsStep step.1 := by
  induction h with
  | root => nofun
  | entry above hentries hid hname hshort hlink ih =>
      exact List.forall_mem_cons.mpr ⟨hname.toIsStep, ih⟩

theorem IsReached.tail (h : fs.IsReached place) : fs.IsReached place.tail := by
  cases h with
  | root => exact .root
  | entry above => exact above

/-- The names along a place lead to it, whatever is walked after them. -/
theorem IsReached.walk_names (h : fs.IsReached place) (through : Bool) (links : Nat)
    (rest : List Bytes) :
    fs.walk through links (place.reverse.map Prod.fst ++ rest) [] =
      fs.walk through links rest place := by
  induction h generalizing rest with
  | root => rfl
  | entry above hentries hid hname hshort hlink ih =>
      rw [List.reverse_cons, List.map_append, List.append_assoc, ih]
      exact walk_entry through links rest hentries ⟨hname.ne_here, hname.ne_up, hshort⟩ hid hlink

theorem IsNamed.isReached_of_step (hnamed : fs.IsNamed) (hstep : fs.Step used course next)
    (h : fs.IsReached course.2) : fs.IsReached next.2 := by
  cases hstep with
  | here => exact h
  | up => exact h.tail
  | entry hentries hplain hid hlink =>
      have hname := hnamed.of_entries hentries (Table.mem_keys_of_find? hid)
      exact .entry h hentries hid hname hplain.2.2 hlink
  | link =>
      dsimp only
      split
      · exact .root
      · exact h

/-- **Every way ends at a place that is reached.** -/
theorem IsNamed.isReached_of_leads (hnamed : fs.IsNamed) {final : Course}
    (hleads : fs.Leads used course final) (h : fs.IsReached course.2) : fs.IsReached final.2 := by
  induction hleads with
  | refl course => exact h
  | step hstep hrest ih => exact ih (hnamed.isReached_of_step hstep h)

/-- **The path of a place leads to it**, if it can be asked for. -/
theorem IsReached.resolve_path (h : fs.IsReached place) (hask : RawPath.IsAskable place.path) :
    fs.resolve place.path = .ok place := by
  have hwalk := h.walk_names true linkLimit []
  rw [List.append_nil] at hwalk
  rw [resolve_eq fs hask place.path_ne_nil, Place.components_path h.isStep, start,
    if_pos place.isAbsolute_path, hwalk, walk]
  rfl

/-- What every file system has: entries have names of their own, without zeros, and relative paths start
at a place that is reached. -/
structure IsTree (fs : FileSystem) : Prop where
  isNamed : fs.IsNamed
  noZero : ∀ node ∈ fs.nodes, ∀ name ∈ namesIn node, 0 ∉ name
  nodup : ∀ node ∈ fs.nodes, (namesIn node).Nodup
  home : fs.IsReached fs.home

theorem IsTree.isReached_start (h : fs.IsTree) (path : RawPath) : fs.IsReached (fs.start path) := by
  rw [start]
  split
  · exact .root
  · exact h.home

theorem IsTree.isReached_of_leadsTo (h : fs.IsTree) (hleads : fs.LeadsTo path place) :
    fs.IsReached place := by
  obtain ⟨used, -, hleads⟩ := hleads
  exact h.isNamed.isReached_of_leads hleads (h.isReached_start path)

theorem IsTree.of_entries (h : fs.IsTree) (hentries : fs.entries? id = some entries) :
    entries.keys.Nodup ∧ ∀ name ∈ entries.keys, 0 ∉ name := by
  unfold entries? at hentries
  split at hentries
  next directory mode hnode =>
    cases hentries
    have hmem := List.mem_of_getElem? hnode
    exact ⟨h.nodup _ hmem, h.noZero _ hmem⟩
  next => cases hentries

theorem IsTree.noZero_path (h : fs.IsTree) (hplace : fs.IsReached place) : 0 ∉ place.path := by
  induction hplace with
  | root => decide
  | @entry place entries name id above hentries hid hname hshort hlink ih =>
      have hzero := (h.of_entries hentries).2 name (Table.mem_keys_of_find? hid)
      have hslash : 0 ∉ RawPath.slash :: name := by
        rw [List.mem_cons, not_or]
        exact ⟨by decide, hzero⟩
      by_cases hroot : place = []
      · subst hroot
        rwa [Place.path_singleton]
      · rw [Place.path_cons hroot, List.mem_append, not_or]
        exact ⟨ih, hslash⟩

/-- The path of a place can be asked for unless it is too long. -/
theorem IsTree.isAskable_path_iff (h : fs.IsTree) (hplace : fs.IsReached place) :
    RawPath.IsAskable place.path ↔ place.path.length < pathLimit := by
  constructor
  · exact fun hask => hask.length
  · intro hlength
    refine ⟨?_, hlength⟩
    simpa using h.noZero_path hplace

/-! ### Places that can be asked for -/

/-- The place can be asked for, or a node will be asked for that is further down. -/
def IsSettled (course : Course) : Prop :=
  course.2.path.length < pathLimit ∨
    ∃ name ∈ course.1, name ≠ RawPath.here ∧ name ≠ RawPath.up

theorem IsSettled.step (h : IsSettled course) (hstep : fs.Step used course next)
    (hnamed : fs.IsNamed) (hreached : fs.IsReached course.2) (hshort : fs.IsShort course) :
    IsSettled next := by
  -- A name that neither stays nor goes up was itself asked for, below the place that it starts from.
  have hlater {first : Bytes} {rest : List Bytes} (hfirst : first = RawPath.here ∨ first = RawPath.up)
      (h : ∃ name ∈ first :: rest, name ≠ RawPath.here ∧ name ≠ RawPath.up) :
      ∃ name ∈ rest, name ≠ RawPath.here ∧ name ≠ RawPath.up := by
    obtain ⟨name, hname, hhere, hup⟩ := h
    rcases List.mem_cons.mp hname with rfl | hrest
    · exact absurd hfirst (by simp [hhere, hup])
    · exact ⟨name, hrest, hhere, hup⟩
  cases hstep with
  | here hname => exact h.imp_right (hlater (.inl hname))
  | @up _ _ place hname =>
      exact h.imp (Nat.lt_of_le_of_lt place.length_path_tail_le) (hlater (.inr hname))
  | @entry name rest place entries id hentries hplain hid hlink =>
      have hentry := hnamed.of_entries hentries (Table.mem_keys_of_find? hid)
      left
      rw [← Place.path_join hreached.isStep hentry.toIsStep]
      exact hshort _ (.node hplain.1 hplain.2.1)
  | @link name rest place entries id target hentries hplain hid hlink =>
      have hentry := hnamed.of_entries hentries (Table.mem_keys_of_find? hid)
      left
      dsimp only
      split
      · decide
      · exact Nat.lt_of_le_of_lt (hentry.toIsStep.length_le_join _)
          (hshort _ (.node hplain.1 hplain.2.1))

/-- If everything on a way can be asked for, so can the place that it leads to. -/
theorem IsShort.length_path_lt {final : Course} (hshort : fs.IsShort course)
    (hleads : fs.Leads used course final) (hnamed : fs.IsNamed) (hreached : fs.IsReached course.2)
    (hsettled : IsSettled course) (hend : final.1 = []) :
    final.2.path.length < pathLimit := by
  induction hleads with
  | refl course =>
      rcases hsettled with hlength | ⟨name, hname, -⟩
      · exact hlength
      · rw [hend] at hname
        cases hname
  | step hstep hrest ih =>
      exact ih (hshort.of_step hstep) (hnamed.isReached_of_step hstep hreached)
        (hsettled.step hstep hnamed hreached hshort) hend

/-! ### Why a path leads nowhere -/

/-- A walk never fails as an opening of a device does. -/
theorem walk_ne_noDevice (links : Nat) (names : List Bytes) (here : Place) :
    fs.walk true links names here ≠ .error .noDevice := by
  intro hwalk
  fun_induction walk fs true links names here with
  | case1 | case2 | case5 | case6 | case7 | case9 => cases hwalk
  | case8 links name rest here entries hentries hdot hup hshort id hid target hlink hend =>
      simp at hend
  | case3 | case4 | case10 | case11 => simp_all

theorem resolve_ne_noDevice (fs : FileSystem) (path : RawPath) :
    fs.resolve path ≠ .error .noDevice := by
  intro hresolve
  unfold resolve follow at hresolve
  split at hresolve
  · cases hresolve
  split at hresolve
  · cases hresolve
  split at hresolve
  · cases hresolve
  generalize hwalk : fs.walk true linkLimit (path.components) (fs.start path) = outcome at hresolve
  rcases outcome with code | ⟨found | _⟩
  · cases hresolve
    exact walk_ne_noDevice _ _ _ hwalk
  · cases hresolve
  · cases hresolve

end DaqBus.FileSystem
