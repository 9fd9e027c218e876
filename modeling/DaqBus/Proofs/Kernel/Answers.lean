import DaqBus.Proofs.Effect
import DaqBus.Proofs.Kernel.Checks
import Mathlib.Data.List.Forall2

/-!
# Scans answer their questions

A scan answers a list of questions if it fails with the first fault among them and, where there is
none, gives a result that shows what it has found. Such scans can be put after one another, and so
the scan of a whole device is understood object by object.
-/

namespace DaqBus.KernelBus

variable {fs : FileSystem} {α β : Type} {checks more : List Check} {good : α → Prop}
  {better : β → Prop}

/-! ### One after the other -/

def Answers (fs : FileSystem) (outcome : Except Errno α) (checks : List Check) (good : α → Prop) :
    Prop :=
  match outcome with
  | .error code => firstFault fs checks = some code
  | .ok a => firstFault fs checks = none ∧ good a

def Meets (fs : FileSystem) (scan : ScanM α) (checks : List Check) (good : α → Prop) : Prop :=
  ∀ state, Answers fs (scan state).1 checks good

theorem firstFault_append (fs : FileSystem) (checks more : List Check) :
    firstFault fs (checks ++ more) = (firstFault fs checks).or (firstFault fs more) :=
  List.findSome?_append

theorem firstFault_singleton (fs : FileSystem) (check : Check) :
    firstFault fs [check] = check.fault fs := by
  rw [firstFault, List.findSome?_singleton]

/-- The questions of a part come before those of what follows it. -/
theorem Answers.andThen {outcome : Except Errno α} {final : Except Errno β}
    (h : Answers fs outcome checks good) (herror : ∀ code, outcome = .error code → final = .error code)
    (hok : ∀ a, outcome = .ok a → good a → Answers fs final more better) :
    Answers fs final (checks ++ more) better := by
  cases outcome with
  | error code =>
      have hfault : firstFault fs checks = some code := h
      rw [herror code rfl]
      show firstFault fs (checks ++ more) = some code
      rw [firstFault_append, hfault, Option.some_or]
  | ok a =>
      obtain ⟨hnone, hgood⟩ := h
      have hfinal := hok a rfl hgood
      unfold Answers at hfinal ⊢
      rw [firstFault_append, hnone, Option.none_or]
      exact hfinal

theorem Answers.bind {outcome : Except Errno α} {next : α → Except Errno β}
    (h : Answers fs outcome checks good) (hnext : ∀ a, good a → Answers fs (next a) more better) :
    Answers fs (outcome >>= next) (checks ++ more) better := by
  apply h.andThen
  · rintro code rfl
    rfl
  · rintro a rfl hgood
    exact hnext a hgood

theorem Meets.bind {scan : ScanM α} {next : α → ScanM β} (h : Meets fs scan checks good)
    (hnext : ∀ a, good a → Meets fs (next a) more better) :
    Meets fs (scan >>= next) (checks ++ more) better := by
  intro state
  have hscan := h state
  rw [Effect.bind_apply]
  generalize scan state = result at hscan ⊢
  obtain ⟨outcome, after⟩ := result
  apply hscan.andThen
  · rintro code rfl
    rfl
  · rintro a rfl hgood
    exact hnext a hgood after

theorem Meets.pure {a : α} (h : good a) : Meets fs (pure a) [] good :=
  fun _ => ⟨rfl, h⟩

theorem Meets.bind_nil {scan : ScanM α} {next : α → ScanM β} (h : Meets fs scan checks good)
    (hnext : ∀ a, good a → Meets fs (next a) [] better) : Meets fs (scan >>= next) checks better := by
  rw [← List.append_nil checks]
  exact h.bind hnext

theorem Meets.lift {outcome : Except Errno α} (h : Answers fs outcome checks good) :
    Meets fs (liftM outcome) checks good :=
  fun _ => h

/-- A question that is answered by a test. -/
theorem Meets.test {bad : Prop} [Decidable bad] {check : Check} {code : Errno} {next : Unit → ScanM α}
    (hfault : check.fault fs = if bad then some code else none)
    (hnext : ¬ bad → Meets fs (next ()) more good) :
    Meets fs (if bad then throw code >>= next else next ()) ([check] ++ more) good := by
  intro state
  by_cases hbad : bad
  · rw [if_pos hbad] at hfault ⊢
    show firstFault fs ([check] ++ more) = some code
    rw [firstFault_append, firstFault_singleton, hfault, Option.some_or]
  · have hafter := hnext hbad state
    rw [if_neg hbad] at hfault ⊢
    unfold Answers at hafter ⊢
    rw [firstFault_append, firstFault_singleton, hfault, Option.none_or]
    exact hafter

theorem Meets.mapM {γ : Type} {scan : γ → ScanM α} {questions : γ → List Check} {shows : γ → α → Prop}
    {xs : List γ} (h : ∀ x ∈ xs, Meets fs (scan x) (questions x) (shows x)) :
    Meets fs (xs.mapM scan) (xs.flatMap questions) fun found => List.Forall₂ shows xs found := by
  induction xs with
  | nil => exact Meets.pure .nil
  | cons x xs ih =>
      rw [List.mapM_cons, List.flatMap_cons]
      apply Meets.bind (h x List.mem_cons_self)
      intro first hfirst
      have hrest := ih fun y hy => h y (List.mem_cons_of_mem x hy)
      apply hrest.bind_nil
      intro found hfound
      exact Meets.pure (.cons hfirst hfound)

/-! ### Listings -/

variable {fs : FileSystem} {path : RawPath}

/-- Some of the names in a directory, in the order of their bytes. -/
structure Lists (fs : FileSystem) (directory : RawPath) (select : Bytes → Bool) (names : List Bytes) :
    Prop where
  entries : ∃ place entries, fs.resolve directory = .ok place ∧
    fs.entries? place.node = some entries ∧ names.Perm (entries.keys.filter select)
  sorted : names.Pairwise (· ≤ ·)

theorem names_cases (fs : FileSystem) (path : RawPath) :
    (∃ code, fs.resolve path = .error code ∧ fs.names path = .error code) ∨
      (∃ place, fs.resolve path = .ok place ∧ fs.entries? place.node = none ∧
        fs.names path = .error .notDirectory) ∨
      ∃ place entries, fs.resolve path = .ok place ∧ fs.entries? place.node = some entries ∧
        fs.names path = .ok entries.keys.mergeSort := by
  unfold FileSystem.names
  cases hresolve : fs.resolve path with
  | error code => exact .inl ⟨code, rfl, rfl⟩
  | ok place =>
      right
      cases hentries : fs.entries? place.node with
      | none =>
          left
          refine ⟨place, rfl, hentries, ?_⟩
          dsimp only [bind, Except.bind]
          rw [hentries]
          rfl
      | some entries =>
          right
          refine ⟨place, entries, rfl, hentries, ?_⟩
          dsimp only [bind, Except.bind]
          rw [hentries]
          rfl

theorem lists_of_names {names : List Bytes} (h : fs.names path = .ok names) (select : Bytes → Bool) :
    Lists fs path select (names.filter select) := by
  rcases names_cases fs path with ⟨code, -, herror⟩ | ⟨place, -, -, herror⟩ |
    ⟨place, entries, hplace, hentries, hok⟩
  · rw [h] at herror
    cases herror
  · rw [h] at herror
    cases herror
  · rw [h] at hok
    cases hok
    have hsorted : entries.keys.mergeSort.Pairwise fun a b => decide (a ≤ b) = true :=
      List.pairwise_mergeSort (fun _ _ _ => by simpa using List.le_trans)
        (fun a b => by simpa using List.le_total a b) _
    refine ⟨⟨place, entries, hplace, hentries, ?_⟩, ?_⟩
    · exact (List.mergeSort_perm _ _).filter select
    · exact (hsorted.filter _).imp of_decide_eq_true


end DaqBus.KernelBus
