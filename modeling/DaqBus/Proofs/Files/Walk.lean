import DaqBus.Files.Access
import DaqBus.Proofs.Files.RawPath
import Mathlib.Tactic.ByContra

/-!
# One name further

The path of an entry leads where the path of its directory leads and then one name further. So what
stands in the way to a directory stands in the way to all that is in it.
-/

namespace DaqBus

/-- The place that was asked for. -/
def Arrival.place : Arrival → Except Errno Place
  | .found place => .ok place
  | .missing _ _ => .error .noEntry

namespace FileSystem

/-- What is walked before a name decides, but for the links that are left, what the rest of the walk
starts from. -/
theorem walk_append (fs : FileSystem) (links : Nat) (front : List Bytes) (name : Bytes)
    (back : List Bytes) (here : Place) :
    ∃ left, fs.walk true links (front ++ name :: back) here =
      (fs.walk true links front here >>= Arrival.place) >>= fs.walk true left (name :: back) := by
  -- Each case is decided by the first name alone, so the longer walk takes the same one; the links
  -- that are left are counted down in both.
  fun_induction walk fs true links front here with
  | case1 links here => exact ⟨links, rfl⟩
  | case2 links first rest here hentries =>
      refine ⟨links, ?_⟩
      rw [List.cons_append, walk, hentries]
      rfl
  | case3 links rest here entries hentries ih =>
      obtain ⟨left, ih⟩ := ih
      refine ⟨left, ?_⟩
      rw [List.cons_append, walk, hentries]
      simpa only [if_true] using ih
  | case4 links rest here entries hentries hdot ih =>
      obtain ⟨left, ih⟩ := ih
      refine ⟨left, ?_⟩
      rw [List.cons_append, walk, hentries]
      simpa only [hdot, if_true, if_false] using ih
  | case5 links first rest here entries hentries hdot hup hlong =>
      refine ⟨links, ?_⟩
      rw [List.cons_append, walk, hentries]
      simp only [hdot, hup, hlong, if_true, if_false]
      rfl
  | case6 links first here entries hentries hdot hup hshort hnone =>
      refine ⟨links, ?_⟩
      rw [List.cons_append, walk, hentries]
      simp only [hdot, hup, hshort, hnone, if_false, List.nil_append, reduceCtorEq]
      rfl
  | case7 links first rest here entries hentries hdot hup hshort hnone hrest =>
      refine ⟨links, ?_⟩
      rw [List.cons_append, walk, hentries]
      simp only [hdot, hup, hshort, hnone, if_false, List.append_eq_nil_iff, reduceCtorEq, and_false]
      rfl
  | case8 links first rest here entries hentries hdot hup hshort id hsome target hlink hend =>
      simp only [Bool.not_true, Bool.and_false, Bool.false_eq_true] at hend
  | case9 first rest here entries hentries hdot hup hshort id hsome target hlink hend =>
      refine ⟨0, ?_⟩
      rw [List.cons_append, walk, hentries]
      simp only [hdot, hup, hshort, hsome, hlink, if_false, Bool.not_true, Bool.and_false,
        Bool.false_eq_true]
      rfl
  | case10 first rest here entries hentries hdot hup hshort id hsome target hlink hend links start ih =>
      obtain ⟨left, ih⟩ := ih
      refine ⟨left, ?_⟩
      rw [List.cons_append, walk, hentries]
      simp only [hdot, hup, hshort, hsome, hlink, if_false, Bool.not_true, Bool.and_false,
        Bool.false_eq_true]
      rw [← List.append_assoc]
      exact ih
  | case11 links first rest here entries hentries hdot hup hshort id hsome hlink ih =>
      obtain ⟨left, ih⟩ := ih
      refine ⟨left, ?_⟩
      rw [List.cons_append, walk, hentries]
      simp only [hdot, hup, hshort, hsome, if_false]
      cases hnode : fs.node? id with
      | none => exact ih
      | some node =>
          cases node with
          | link target => exact absurd hnode (hlink target)
          | file content mode => exact ih
          | directory entries mode => exact ih

variable {fs : FileSystem} {path : RawPath} {name : Bytes} {place : Place}
  {entries : Table Bytes NodeId}

theorem resolve_eq (fs : FileSystem) (hask : RawPath.IsAskable path) (hne : path ≠ []) :
    fs.resolve path =
      fs.walk true linkLimit (path.components) (fs.start path) >>= Arrival.place := by
  rw [resolve, follow, if_neg (by rw [hask.no_zero]; decide), if_neg hne,
    if_neg (Nat.not_le.mpr hask.length)]
  rcases fs.walk true linkLimit (path.components) (fs.start path) with code | ⟨place | directory⟩
  · rfl
  · rfl
  · rfl

/-- The path of an entry leads where that of its directory does and one name further. -/
theorem resolve_join (fs : FileSystem) (hpath : RawPath.IsOpen path) (hname : RawPath.IsStep name)
    (hask : RawPath.IsAskable (path.join name)) :
    ∃ left, fs.resolve (path.join name) =
      fs.resolve path >>= fun place => fs.walk true left [name] place >>= Arrival.place := by
  obtain ⟨left, hwalk⟩ := fs.walk_append linkLimit (path.components) name [] (fs.start path)
  refine ⟨left, ?_⟩
  have hstart : fs.start (path.join name) = fs.start path := by
    rw [start, start, RawPath.isAbsolute_join hpath hname]
  rw [resolve_eq fs hask (hname.isOpen_join path).ne_nil,
    resolve_eq fs (hask.of_join hpath hname) hpath.ne_nil, RawPath.components_join hpath hname, hstart,
    hwalk, bind_assoc]

theorem resolve_join_of_ok (hpath : RawPath.IsOpen path) (hname : RawPath.IsStep name)
    (hask : RawPath.IsAskable (path.join name)) (hplace : fs.resolve path = .ok place) :
    ∃ left, fs.resolve (path.join name) = fs.walk true left [name] place >>= Arrival.place := by
  obtain ⟨left, hentry⟩ := fs.resolve_join hpath hname hask
  refine ⟨left, hentry.trans ?_⟩
  rw [hplace]
  rfl

/-- A name that an entry can have and that is not just a way to walk. -/
def IsPlain (name : Bytes) : Prop :=
  name ≠ RawPath.here ∧ name ≠ RawPath.up ∧ name.length ≤ nameLimit

theorem walk_entry {id : NodeId} (through : Bool) (links : Nat) (rest : List Bytes)
    (hentries : fs.entries? place.node = some entries) (hplain : IsPlain name)
    (hid : entries.find? name = some id) (hlink : ∀ target, fs.node? id ≠ some (.link target)) :
    fs.walk through links (name :: rest) place = fs.walk through links rest ((name, id) :: place) := by
  obtain ⟨hdot, hup, hshort⟩ := hplain
  rw [walk, hentries]
  -- What is not a link is walked through, which is the last case.
  simp only [hdot, hup, Nat.not_lt.mpr hshort, if_false, hid]

theorem walk_link {id : NodeId} {target : RawPath} (links : Nat) (rest : List Bytes)
    (hentries : fs.entries? place.node = some entries) (hplain : IsPlain name)
    (hid : entries.find? name = some id) (hlink : fs.node? id = some (.link target)) :
    fs.walk true (links + 1) (name :: rest) place =
      fs.walk true links (target.components ++ rest) (if target.isAbsolute then [] else place) := by
  obtain ⟨hhere, hup, hshort⟩ := hplain
  rw [walk, hentries]
  simp only [hhere, hup, Nat.not_lt.mpr hshort, if_false, hid, hlink, Bool.not_true, Bool.and_false,
    Bool.false_eq_true]

/-- An entry of a directory, unless it is a link. -/
theorem resolve_entry (hpath : RawPath.IsOpen path) (hname : RawPath.IsStep name)
    (hask : RawPath.IsAskable (path.join name)) (hplace : fs.resolve path = .ok place)
    (hentries : fs.entries? place.node = some entries) (hplain : IsPlain name)
    (hlink : ∀ id target, entries.find? name = some id → fs.node? id ≠ some (.link target)) :
    fs.resolve (path.join name) =
      match entries.find? name with
      | none => .error .noEntry
      | some id => .ok ((name, id) :: place) := by
  obtain ⟨left, hentry⟩ := resolve_join_of_ok hpath hname hask hplace
  rw [hentry]
  cases hid : entries.find? name with
  | none =>
      obtain ⟨hdot, hup, hshort⟩ := hplain
      rw [walk, hentries]
      simp only [hdot, hup, Nat.not_lt.mpr hshort, if_false, hid]
      rfl
  | some id =>
      rw [walk_entry true left [] hentries hplain hid fun target => hlink id target hid, walk]
      rfl

/-- A path that cannot be asked about is refused, and not as one that leads nowhere. -/
theorem resolve_of_not_isAskable (h : ¬ RawPath.IsAskable path) :
    ∃ code, fs.resolve path = .error code ∧ code ≠ .noEntry := by
  cases hzero : path.contains 0 with
  | true =>
      refine ⟨.inputOutput, ?_, by decide⟩
      rw [resolve, follow, if_pos hzero]
      rfl
  | false =>
      have hlong : pathLimit ≤ path.length := Nat.not_lt.mp fun hlength => h ⟨hzero, hlength⟩
      have hne : path ≠ [] := by
        rintro rfl
        exact absurd hlong (by decide)
      refine ⟨.nameTooLong, ?_, by decide⟩
      rw [resolve, follow, if_neg (by rw [hzero]; decide), if_neg hne, if_pos hlong]
      rfl

theorem isAskable_of_resolve (h : fs.resolve path = .ok place) : RawPath.IsAskable path := by
  by_contra hnot
  obtain ⟨code, hresolve, -⟩ := fs.resolve_of_not_isAskable hnot
  rw [h] at hresolve
  cases hresolve

end FileSystem

end DaqBus
