import DaqBus.Proofs.Files.RawPath

/-!
# The paths of places

The path of a place is made of the names on the way down from the root, with a slash before each.
-/

namespace DaqBus.Place

open RawPath (slash)

variable {place : Place} {name : Bytes} {id : NodeId}

theorem path_eq_flatMap (hne : place ≠ []) :
    place.path = place.reverse.flatMap fun step => slash :: step.1 := by
  have hjoined {names : List Bytes} (hnames : names ≠ []) :
      slash :: [slash].intercalate names = names.flatMap (slash :: ·) := by
    induction names with
    | nil => exact absurd rfl hnames
    | cons first names ih =>
        cases names with
        | nil => simp
        | cons second names =>
            rw [List.intercalate_cons_cons, List.flatMap_cons, ← ih (List.cons_ne_nil _ _)]
            simp
  rw [path, hjoined (by simpa using hne), List.flatMap_map]

theorem path_singleton (name : Bytes) (id : NodeId) : path [(name, id)] = slash :: name := by
  simp [path]

theorem path_cons (hne : place ≠ []) :
    path ((name, id) :: place) = place.path ++ slash :: name := by
  rw [path_eq_flatMap (List.cons_ne_nil _ _), List.reverse_cons, List.flatMap_append,
    ← path_eq_flatMap hne]
  simp

theorem length_path_cons_le (name : Bytes) (id : NodeId) (place : Place) :
    (path ((name, id) :: place)).length ≤ place.path.length + name.length + 1 := by
  by_cases hne : place = []
  · subst hne
    rw [path_singleton, List.length_cons]
    omega
  · rw [path_cons hne, List.length_append, List.length_cons]
    omega

theorem length_path_tail_le (place : Place) : (path place.tail).length ≤ place.path.length := by
  cases place with
  | nil => exact Nat.le_refl _
  | cons step place =>
      obtain ⟨name, id⟩ := step
      rw [List.tail_cons]
      by_cases hne : place = []
      · subst hne
        rw [path_singleton, List.length_cons]
        exact Nat.succ_le_succ (Nat.zero_le _)
      · rw [path_cons hne, List.length_append]
        exact Nat.le_add_right _ _

theorem isAbsolute_path (place : Place) : place.path.isAbsolute = true := by
  rw [RawPath.isAbsolute, path, decide_eq_true_eq]
  rfl

theorem path_ne_nil (place : Place) : place.path ≠ [] :=
  List.cons_ne_nil _ _

theorem path_nil : path [] = [slash] := rfl

/-- The path of a place can be added to, and the names along it are those of the place. -/
theorem isOpen_path (hsteps : ∀ step ∈ place, RawPath.IsStep step.1) (hne : place ≠ []) :
    RawPath.IsOpen place.path ∧ place.path.components = place.reverse.map Prod.fst := by
  induction place with
  | nil => exact absurd rfl hne
  | cons step place ih =>
      obtain ⟨name, id⟩ := step
      obtain ⟨hname, hsteps⟩ := List.forall_mem_cons.mp hsteps
      by_cases hroot : place = []
      · subst hroot
        have hpieces : Text.pieces (· == slash) (slash :: name) = [[], name] :=
          (Text.pieces_append_cons [] (by decide) name).trans (by rw [hname.pieces_eq]; rfl)
        have hjoin : RawPath.join [slash] name = slash :: name := by
          rw [RawPath.join, hname.not_isAbsolute, if_neg (by decide), if_pos (by decide)]
          rfl
        rw [path_singleton]
        refine ⟨hjoin ▸ hname.isOpen_join [slash], ?_⟩
        rw [RawPath.components, hpieces]
        simp [hname.ne_nil]
      · obtain ⟨hopen, hcomponents⟩ := ih hsteps hroot
        rw [path_cons hroot, ← hopen.join_eq hname, RawPath.components_join hopen hname, hcomponents]
        refine ⟨hname.isOpen_join _, ?_⟩
        simp

theorem components_path (hsteps : ∀ step ∈ place, RawPath.IsStep step.1) :
    place.path.components = place.reverse.map Prod.fst := by
  by_cases hroot : place = []
  · subst hroot
    decide
  · exact (isOpen_path hsteps hroot).2

/-- The path of an entry is asked for as that of the place below. -/
theorem path_join (hsteps : ∀ step ∈ place, RawPath.IsStep step.1) (hname : RawPath.IsStep name)
    (id : NodeId) : place.path.join name = path ((name, id) :: place) := by
  by_cases hroot : place = []
  · subst hroot
    rw [path_singleton, path_nil, RawPath.join, hname.not_isAbsolute, if_neg (by decide),
      if_pos (by decide)]
    rfl
  · rw [path_cons hroot, (isOpen_path hsteps hroot).1.join_eq hname]

end DaqBus.Place
