import DaqBus.Proofs.Files.Walk

/-!
# Ways

Where a path leads is told by the tree, one name after the other. Resolving a path goes this way if the
path can be asked for. Finding the canonical path goes the same way, but asks on it for the path of every
node it comes to.
-/

namespace DaqBus

/-- What is left of a way: names to follow, and the place to follow them from. -/
abbrev Course := List Bytes × Place

namespace FileSystem

/-- The first name of a course is followed, through so many links. -/
inductive Step (fs : FileSystem) : (links : Nat) → Course → Course → Prop
  | here {name : Bytes} {rest : List Bytes} {place : Place} (hname : name = RawPath.here)
      (hdirectory : (fs.entries? place.node).isSome) :
      Step fs 0 (name :: rest, place) (rest, place)
  | up {name : Bytes} {rest : List Bytes} {place : Place} (hname : name = RawPath.up)
      (hdirectory : (fs.entries? place.node).isSome) :
      Step fs 0 (name :: rest, place) (rest, place.tail)
  | entry {name : Bytes} {rest : List Bytes} {place : Place} {entries : Table Bytes NodeId}
      {id : NodeId} (hentries : fs.entries? place.node = some entries) (hplain : IsPlain name)
      (hid : entries.find? name = some id) (hlink : ∀ target, fs.node? id ≠ some (.link target)) :
      Step fs 0 (name :: rest, place) (rest, (name, id) :: place)
  | link {name : Bytes} {rest : List Bytes} {place : Place} {entries : Table Bytes NodeId}
      {id : NodeId} {target : RawPath} (hentries : fs.entries? place.node = some entries)
      (hplain : IsPlain name) (hid : entries.find? name = some id)
      (hlink : fs.node? id = some (.link target)) :
      Step fs 1 (name :: rest, place)
        (target.components ++ rest, if target.isAbsolute then [] else place)

/-- A course is followed up to another one. -/
inductive Leads (fs : FileSystem) : (links : Nat) → Course → Course → Prop
  | refl (course : Course) : Leads fs 0 course course
  | step {links more : Nat} {course next final : Course} (hstep : fs.Step links course next)
      (hrest : Leads fs more next final) : Leads fs (more + links) course final

/-- A directory that has no entry of this name. -/
def Lacks (fs : FileSystem) (place : Place) (name : Bytes) : Prop :=
  ∃ entries, fs.entries? place.node = some entries ∧ IsPlain name ∧ entries.find? name = none

/-- The names along a path, from where it starts. -/
def course (fs : FileSystem) (path : RawPath) : Course :=
  (path.components, fs.start path)

/-- Where a path leads, however long it is. -/
def LeadsTo (fs : FileSystem) (path : RawPath) (place : Place) : Prop :=
  ∃ links ≤ linkLimit, fs.Leads links (fs.course path) ([], place)

/-- The way of a path comes to a directory that lacks the next name. -/
def IsMissing (fs : FileSystem) (path : RawPath) : Prop :=
  ∃ links ≤ linkLimit, ∃ name rest place,
    fs.Leads links (fs.course path) (name :: rest, place) ∧ fs.Lacks place name

variable {fs : FileSystem} {links used : Nat} {course next final : Course} {names rest : List Bytes}
  {name : Bytes} {path asked : RawPath} {place goal : Place} {entries : Table Bytes NodeId}

/-! ### Walks go the way -/

theorem Step.walk_eq (h : fs.Step used course next) (links : Nat) :
    fs.walk true (links + used) course.1 course.2 = fs.walk true links next.1 next.2 := by
  cases h with
  | @here name rest place hname hdirectory =>
      obtain ⟨entries, hentries⟩ := Option.isSome_iff_exists.mp hdirectory
      show fs.walk true links (name :: rest) place = _
      rw [walk, hentries]
      simp only [hname, if_true]
  | @up name rest place hname hdirectory =>
      obtain ⟨entries, hentries⟩ := Option.isSome_iff_exists.mp hdirectory
      have hne : RawPath.up ≠ RawPath.here := by decide
      show fs.walk true links (name :: rest) place = _
      rw [walk, hentries]
      simp only [hname, hne, if_true, if_false]
  | entry hentries hplain hid hlink => exact walk_entry true links _ hentries hplain hid hlink
  | link hentries hplain hid hlink => exact walk_link links _ hentries hplain hid hlink

theorem Leads.walk_eq (h : fs.Leads used course final) (links : Nat) :
    fs.walk true (links + used) course.1 course.2 = fs.walk true links final.1 final.2 := by
  induction h generalizing links with
  | refl course => rfl
  | step hstep hrest ih => rw [← Nat.add_assoc, hstep.walk_eq, ih]

/-- What the outcome of a walk says about its way. -/
def Tells (fs : FileSystem) (links : Nat) (course : Course) (outcome : Except Errno Place) : Prop :=
  match outcome with
  | .ok goal => ∃ used ≤ links, fs.Leads used course ([], goal)
  | .error code => code = .noEntry → ∃ used ≤ links, ∃ name rest place,
      fs.Leads used course (name :: rest, place) ∧ fs.Lacks place name

theorem Tells.step {outcome : Except Errno Place} (h : fs.Tells links next outcome)
    (hstep : fs.Step used course next) : fs.Tells (links + used) course outcome := by
  cases outcome with
  | ok goal =>
      obtain ⟨more, hmore, hleads⟩ := h
      exact ⟨more + used, Nat.add_le_add_right hmore used, .step hstep hleads⟩
  | error code =>
      intro hcode
      obtain ⟨more, hmore, name, rest, stop, hleads, hlacks⟩ := h hcode
      exact ⟨more + used, Nat.add_le_add_right hmore used, name, rest, stop, .step hstep hleads, hlacks⟩

theorem tells_walk (fs : FileSystem) (links : Nat) (names : List Bytes) (place : Place) :
    fs.Tells links (names, place) (fs.walk true links names place >>= Arrival.place) := by
  have hother {links : Nat} {course : Course} {code : Errno} (hcode : code ≠ .noEntry) :
      fs.Tells links course (.error code) := fun heq => absurd heq hcode
  fun_induction walk fs true links names place with
  | case1 links place => exact ⟨0, Nat.zero_le _, .refl _⟩
  | case2 links name rest place hentries => exact hother (by decide)
  | case3 links rest place entries hentries ih =>
      exact ih.step (.here rfl (by simp [hentries]))
  | case4 links rest place entries hentries hhere ih =>
      exact ih.step (.up rfl (by simp [hentries]))
  | case5 links name rest place entries hentries hhere hup hlong => exact hother (by decide)
  | case6 links name place entries hentries hhere hup hshort hnone =>
      intro _
      exact ⟨0, Nat.zero_le _, name, [], place, .refl _, entries, hentries,
        ⟨hhere, hup, Nat.not_lt.mp hshort⟩, hnone⟩
  | case7 links name rest place entries hentries hhere hup hshort hnone hrest =>
      intro _
      exact ⟨0, Nat.zero_le _, name, rest, place, .refl _, entries, hentries,
        ⟨hhere, hup, Nat.not_lt.mp hshort⟩, hnone⟩
  | case8 links name rest place entries hentries hhere hup hshort id hid target hlink hend =>
      simp only [Bool.not_true, Bool.and_false, Bool.false_eq_true] at hend
  | case9 name rest place entries hentries hhere hup hshort id hid target hlink hend =>
      exact hother (by decide)
  | case10 name rest place entries hentries hhere hup hshort id hid target hlink hend links start ih =>
      exact ih.step (.link hentries ⟨hhere, hup, Nat.not_lt.mp hshort⟩ hid hlink)
  | case11 links name rest place entries hentries hhere hup hshort id hid hlink ih =>
      exact ih.step (.entry hentries ⟨hhere, hup, Nat.not_lt.mp hshort⟩ hid hlink)

/-- **A walk ends at a place** exactly if the names lead there through no more links. -/
theorem walk_eq_ok_iff :
    (fs.walk true links names place >>= Arrival.place) = .ok goal ↔
      ∃ used ≤ links, fs.Leads used (names, place) ([], goal) := by
  constructor
  · intro hwalk
    have htells := fs.tells_walk links names place
    rwa [hwalk] at htells
  · rintro ⟨used, hused, hleads⟩
    have hwalk := hleads.walk_eq (links - used)
    rw [Nat.sub_add_cancel hused] at hwalk
    rw [hwalk, walk]
    rfl

theorem walk_eq_noEntry_iff :
    (fs.walk true links names place >>= Arrival.place) = .error .noEntry ↔
      ∃ used ≤ links, ∃ name rest stop,
        fs.Leads used (names, place) (name :: rest, stop) ∧ fs.Lacks stop name := by
  constructor
  · intro hwalk
    have htells := fs.tells_walk links names place
    rw [hwalk] at htells
    exact htells rfl
  · rintro ⟨used, hused, name, rest, stop, hleads, entries, hentries, ⟨hhere, hup, hshort⟩, hnone⟩
    have hwalk := hleads.walk_eq (links - used)
    rw [Nat.sub_add_cancel hused] at hwalk
    rw [hwalk, walk, hentries]
    simp only [hhere, hup, Nat.not_lt.mpr hshort, if_false, hnone]
    split <;> rfl

/-- **Where a path leads.** -/
theorem resolve_eq_ok_iff :
    fs.resolve path = .ok goal ↔ path ≠ [] ∧ RawPath.IsAskable path ∧ fs.LeadsTo path goal := by
  constructor
  · intro hresolve
    have hask := isAskable_of_resolve hresolve
    have hne : path ≠ [] := by
      rintro rfl
      cases hresolve
    rw [resolve_eq fs hask hne, walk_eq_ok_iff] at hresolve
    exact ⟨hne, hask, hresolve⟩
  · rintro ⟨hne, hask, hleads⟩
    rw [resolve_eq fs hask hne, walk_eq_ok_iff]
    exact hleads

theorem resolve_eq_noEntry_iff (hne : path ≠ []) :
    fs.resolve path = .error .noEntry ↔ RawPath.IsAskable path ∧ fs.IsMissing path := by
  constructor
  · intro hresolve
    have hask : RawPath.IsAskable path := by
      by_contra hnot
      obtain ⟨code, herror, hcode⟩ := fs.resolve_of_not_isAskable hnot
      rw [hresolve] at herror
      cases herror
      exact hcode rfl
    rw [resolve_eq fs hask hne, walk_eq_noEntry_iff] at hresolve
    exact ⟨hask, hresolve⟩
  · rintro ⟨hask, hmissing⟩
    rw [resolve_eq fs hask hne, walk_eq_noEntry_iff]
    exact hmissing

theorem isDirectory_iff :
    fs.isDirectory path = true ↔ path ≠ [] ∧ RawPath.IsAskable path ∧
      ∃ place, fs.LeadsTo path place ∧ (fs.entries? place.node).isSome := by
  rw [isDirectory]
  constructor
  · intro hdirectory
    cases hresolve : fs.resolve path with
    | error code =>
        rw [hresolve] at hdirectory
        cases hdirectory
    | ok place =>
        rw [hresolve] at hdirectory
        obtain ⟨hne, hask, hleads⟩ := resolve_eq_ok_iff.mp hresolve
        exact ⟨hne, hask, place, hleads, hdirectory⟩
  · rintro ⟨hne, hask, place, hleads, hentries⟩
    rw [resolve_eq_ok_iff.mpr ⟨hne, hask, hleads⟩]
    exact hentries

/-! ### Part of a way -/

/-- What comes later in a course takes no part in a step. -/
theorem Step.split {front back : List Bytes}
    (h : fs.Step used (name :: (front ++ back), place) next) :
    ∃ mid, next = (mid.1 ++ back, mid.2) ∧ fs.Step used (name :: front, place) mid := by
  cases h with
  | here hname hdirectory => exact ⟨(front, place), rfl, .here hname hdirectory⟩
  | up hname hdirectory => exact ⟨(front, place.tail), rfl, .up hname hdirectory⟩
  | @entry _ _ _ entries id hentries hplain hid hlink =>
      exact ⟨(front, (name, id) :: place), rfl, .entry hentries hplain hid hlink⟩
  | @link _ _ _ entries id target hentries hplain hid hlink =>
      refine ⟨(target.components ++ front, if target.isAbsolute then [] else place), ?_,
        .link hentries hplain hid hlink⟩
      rw [List.append_assoc]

/-- A way goes to where its first names lead and on from there. -/
theorem Leads.split {front back : List Bytes} (h : fs.Leads used (front ++ back, place) ([], goal)) :
    ∃ first second mid, first + second = used ∧ fs.Leads first (front, place) ([], mid) ∧
      fs.Leads second (back, mid) ([], goal) := by
  generalize hcourse : (front ++ back, place) = course at h
  generalize hfinal : (([] : List Bytes), goal) = final at h
  induction h generalizing front place with
  | refl course =>
      cases hfinal
      obtain ⟨hnames, rfl⟩ := Prod.mk.inj hcourse
      obtain ⟨rfl, rfl⟩ := List.append_eq_nil_iff.mp hnames
      exact ⟨0, 0, place, rfl, .refl _, .refl _⟩
  | @step links more course next final hstep hrest ih =>
      cases hcourse
      cases front with
      | nil =>
          cases hfinal
          exact ⟨0, more + links, place, Nat.zero_add _, .refl _, .step hstep hrest⟩
      | cons name front =>
          obtain ⟨mid, rfl, hfirst⟩ := hstep.split
          obtain ⟨first, second, stop, rfl, hfront, hback⟩ := ih rfl hfinal
          exact ⟨first + links, second, stop, by omega, .step hfirst hfront, hback⟩

/-- The directory that a path leads to has an entry of this name. -/
def HasEntry (fs : FileSystem) (path : RawPath) (name : Bytes) : Prop :=
  ∃ place entries, fs.LeadsTo path place ∧ fs.entries? place.node = some entries ∧
    name ∈ entries.keys

theorem course_join (fs : FileSystem) (hpath : RawPath.IsOpen path) (hname : RawPath.IsStep name) :
    fs.course (path.join name) = (path.components ++ [name], fs.start path) := by
  rw [course, RawPath.components_join hpath hname, start, start, RawPath.isAbsolute_join hpath hname]

/-- A name that leads somewhere from a directory is an entry of it. -/
theorem LeadsTo.hasEntry (h : fs.LeadsTo (path.join name) goal) (hpath : RawPath.IsOpen path)
    (hname : RawPath.IsEntryName name) : fs.HasEntry path name := by
  obtain ⟨used, hused, hleads⟩ := h
  rw [course_join fs hpath hname.toIsStep] at hleads
  obtain ⟨first, second, mid, rfl, hfront, hback⟩ := hleads.split
  have hmid : fs.LeadsTo path mid := ⟨first, by omega, hfront⟩
  cases hback with
  | step hstep hrest =>
      cases hstep with
      | here hhere => exact absurd hhere hname.ne_here
      | up hup => exact absurd hup hname.ne_up
      | entry hentries hplain hid => exact ⟨mid, _, hmid, hentries, Table.mem_keys_of_find? hid⟩
      | link hentries hplain hid => exact ⟨mid, _, hmid, hentries, Table.mem_keys_of_find? hid⟩

/-! ### Finding the canonical path -/

/-- A path that is asked about on the way: that of every node, with a slash behind it where the names
that follow ask for a directory. -/
inductive Asks (fs : FileSystem) : Course → RawPath → Prop
  | node {name : Bytes} {rest : List Bytes} {place : Place} (hhere : name ≠ RawPath.here)
      (hup : name ≠ RawPath.up) : Asks fs (name :: rest, place) (place.path.join name)
  | directory {name : Bytes} {rest : List Bytes} {place : Place} {entries : Table Bytes NodeId}
      {id : NodeId} (hentries : fs.entries? place.node = some entries) (hplain : IsPlain name)
      (hid : entries.find? name = some id) (hlink : ∀ target, fs.node? id ≠ some (.link target))
      (hrest : asksDirectory rest = true) :
      Asks fs (name :: rest, place) (place.path.join name ++ [RawPath.slash])
  | later {links : Nat} {course next : Course} {asked : RawPath} (hstep : fs.Step links course next)
      (hnext : Asks fs next asked) : Asks fs course asked

/-- Everything on the way can be asked for. -/
def IsShort (fs : FileSystem) (course : Course) : Prop :=
  ∀ asked, fs.Asks course asked → asked.length < pathLimit

/-- A step is told by what it starts from. -/
theorem Step.unique {more : Nat} {other : Course} (h : fs.Step links course next)
    (hother : fs.Step more course other) : links = more ∧ next = other := by
  have hne : RawPath.up ≠ RawPath.here := by decide
  cases h <;> cases hother <;> simp_all [IsPlain]

theorem isShort_nil (place : Place) : fs.IsShort ([], place) := by
  rintro asked (_ | _ | hstep)
  cases hstep

theorem isShort_here_iff (hstep : fs.Step links (name :: rest, place) next)
    (hname : name = RawPath.here ∨ name = RawPath.up) :
    fs.IsShort (name :: rest, place) ↔ fs.IsShort next := by
  constructor
  · exact fun h asked hasked => h asked (.later hstep hasked)
  · intro h asked hasked
    cases hasked with
    | node hhere hup => exact absurd hname (by simp [hhere, hup])
    | directory hentries hplain => exact absurd hname (by simp [hplain.1, hplain.2.1])
    | later hother hnext =>
        obtain ⟨-, rfl⟩ := hstep.unique hother
        exact h asked hnext

theorem isShort_entry_iff {id : NodeId} (hentries : fs.entries? place.node = some entries)
    (hplain : IsPlain name) (hid : entries.find? name = some id)
    (hlink : ∀ target, fs.node? id ≠ some (.link target)) :
    fs.IsShort (name :: rest, place) ↔ (place.path.join name).length < pathLimit ∧
      (asksDirectory rest = true → (place.path.join name).length + 1 < pathLimit) ∧
      fs.IsShort (rest, (name, id) :: place) := by
  constructor
  · intro h
    refine ⟨h _ (.node hplain.1 hplain.2.1), fun hrest => ?_,
      fun asked hasked => h asked (.later (.entry hentries hplain hid hlink) hasked)⟩
    have hlength := h _ (.directory hentries hplain hid hlink hrest)
    rwa [List.length_append] at hlength
  · rintro ⟨hshort, hdirectory, hnext⟩ asked hasked
    cases hasked with
    | node => exact hshort
    | directory _ _ _ _ hrest =>
        rw [List.length_append]
        exact hdirectory hrest
    | later hother hlater =>
        obtain ⟨-, rfl⟩ := (Step.entry hentries hplain hid hlink).unique hother
        exact hnext asked hlater

theorem isShort_link_iff {id : NodeId} {target : RawPath}
    (hentries : fs.entries? place.node = some entries) (hplain : IsPlain name)
    (hid : entries.find? name = some id) (hlink : fs.node? id = some (.link target)) :
    fs.IsShort (name :: rest, place) ↔ (place.path.join name).length < pathLimit ∧
      fs.IsShort (target.components ++ rest, if target.isAbsolute then [] else place) := by
  constructor
  · intro h
    exact ⟨h _ (.node hplain.1 hplain.2.1),
      fun asked hasked => h asked (.later (.link hentries hplain hid hlink) hasked)⟩
  · rintro ⟨hshort, hnext⟩ asked hasked
    cases hasked with
    | node => exact hshort
    | directory hother _ hsame hnone =>
        rw [hentries] at hother
        cases hother
        rw [hid] at hsame
        cases hsame
        exact absurd hlink (hnone target)
    | later hother hlater =>
        obtain ⟨-, rfl⟩ := (Step.link hentries hplain hid hlink).unique hother
        exact hnext asked hlater

theorem IsShort.of_step (h : fs.IsShort course) (hstep : fs.Step used course next) :
    fs.IsShort next :=
  fun asked hasked => h asked (.later hstep hasked)

theorem Step.trace_eq (h : fs.Step used course next) (hshort : fs.IsShort course) (links : Nat) :
    fs.trace (links + used) course.1 course.2 = fs.trace links next.1 next.2 := by
  cases h with
  | @here name rest place hname hdirectory =>
      obtain ⟨entries, hentries⟩ := Option.isSome_iff_exists.mp hdirectory
      show fs.trace links (name :: rest) place = _
      rw [trace, hentries]
      simp only [hname, if_true]
  | @up name rest place hname hdirectory =>
      obtain ⟨entries, hentries⟩ := Option.isSome_iff_exists.mp hdirectory
      have hne : RawPath.up ≠ RawPath.here := by decide
      show fs.trace links (name :: rest) place = _
      rw [trace, hentries]
      simp only [hname, hne, if_true, if_false]
  | @entry name rest place entries id hentries hplain hid hlink =>
      obtain ⟨hnode, hdirectory, -⟩ := (isShort_entry_iff hentries hplain hid hlink).mp hshort
      obtain ⟨hhere, hup, hname⟩ := hplain
      have hasked : (decide (pathLimit ≤ (place.path.join name).length) ||
          decide (nameLimit < name.length)) = false := by
        simp [hnode, hname]
      have hslash : (asksDirectory rest &&
          decide (pathLimit ≤ (place.path.join name).length + 1)) = false := by
        simpa using hdirectory
      show fs.trace links (name :: rest) place = _
      rw [trace, hentries]
      simp only [hhere, hup, hasked, hid, hslash, if_false, Bool.false_eq_true]
  | @link name rest place entries id target hentries hplain hid hlink =>
      obtain ⟨hnode, -⟩ := (isShort_link_iff hentries hplain hid hlink).mp hshort
      obtain ⟨hhere, hup, hname⟩ := hplain
      have hasked : (decide (pathLimit ≤ (place.path.join name).length) ||
          decide (nameLimit < name.length)) = false := by
        simp [hnode, hname]
      show fs.trace (links + 1) (name :: rest) place = _
      rw [trace, hentries]
      simp only [hhere, hup, hasked, hid, hlink, if_false, Bool.false_eq_true]

theorem Leads.trace_eq (h : fs.Leads used course final) (hshort : fs.IsShort course)
    (links : Nat) : fs.trace (links + used) course.1 course.2 = fs.trace links final.1 final.2 := by
  induction h generalizing links with
  | refl course => rfl
  | step hstep hrest ih =>
      rw [← Nat.add_assoc, hstep.trace_eq hshort, ih (hshort.of_step hstep)]

/-- **A canonical path is found** exactly if the names lead somewhere and everything on the way can be
asked for. -/
theorem trace_eq_some_iff :
    fs.trace links names place = some goal ↔
      (∃ used ≤ links, fs.Leads used (names, place) ([], goal)) ∧ fs.IsShort (names, place) := by
  constructor
  · intro htrace
    have hstep {links used : Nat} {course next : Course} (hstep : fs.Step used course next)
        (h : ∃ more ≤ links, fs.Leads more next ([], goal)) :
        ∃ more ≤ links + used, fs.Leads more course ([], goal) := by
      obtain ⟨more, hmore, hleads⟩ := h
      exact ⟨more + used, Nat.add_le_add_right hmore used, .step hstep hleads⟩
    fun_induction trace fs links names place with
    | case1 links place =>
        cases htrace
        exact ⟨⟨0, Nat.zero_le _, .refl _⟩, isShort_nil goal⟩
    | case2 | case5 | case6 | case7 | case9 => cases htrace
    | case3 links rest place entries hentries ih =>
        obtain ⟨hleads, hshort⟩ := ih htrace
        have hfirst : fs.Step 0 (RawPath.here :: rest, place) (rest, place) :=
          .here rfl (by simp [hentries])
        exact ⟨hstep hfirst hleads, (isShort_here_iff hfirst (.inl rfl)).mpr hshort⟩
    | case4 links rest place entries hentries hhere ih =>
        obtain ⟨hleads, hshort⟩ := ih htrace
        have hfirst : fs.Step 0 (RawPath.up :: rest, place) (rest, place.tail) :=
          .up rfl (by simp [hentries])
        exact ⟨hstep hfirst hleads, (isShort_here_iff hfirst (.inr rfl)).mpr hshort⟩
    | case8 name rest place entries hentries hhere hup asked hasked id hid target hlink links start ih =>
        obtain ⟨hleads, hshort⟩ := ih htrace
        simp only [Bool.or_eq_true, decide_eq_true_eq, not_or, Nat.not_le, Nat.not_lt] at hasked
        have hplain : IsPlain name := ⟨hhere, hup, hasked.2⟩
        exact ⟨hstep (.link hentries hplain hid hlink) hleads,
          (isShort_link_iff hentries hplain hid hlink).mpr ⟨hasked.1, hshort⟩⟩
    | case10 links name rest place entries hentries hhere hup asked hasked id hid hslash hlink ih =>
        obtain ⟨hleads, hshort⟩ := ih htrace
        simp only [Bool.or_eq_true, decide_eq_true_eq, not_or, Nat.not_le, Nat.not_lt] at hasked
        have hplain : IsPlain name := ⟨hhere, hup, hasked.2⟩
        refine ⟨hstep (.entry hentries hplain hid hlink) hleads,
          (isShort_entry_iff hentries hplain hid hlink).mpr ⟨hasked.1, fun hrest => ?_, hshort⟩⟩
        simpa [hrest] using hslash
  · rintro ⟨⟨used, hused, hleads⟩, hshort⟩
    have htrace := hleads.trace_eq hshort (links - used)
    rw [Nat.sub_add_cancel hused] at htrace
    rw [htrace, trace]

/-- The way of a path, with everything on it, can be asked for. -/
def IsTraceable (fs : FileSystem) (path : RawPath) : Prop :=
  path.contains 0 = false ∧ path ≠ [] ∧ fs.IsShort (fs.course path)

/-- **What the canonical path is.** -/
theorem canonical_eq_some_iff {base : RawPath} :
    fs.canonical path = some base ↔
      fs.IsTraceable path ∧ ∃ place, fs.LeadsTo path place ∧ place.path = base := by
  unfold canonical
  by_cases hask : path.contains 0 = false ∧ path ≠ []
  · obtain ⟨hzero, hne⟩ := hask
    simp only [hzero, hne, decide_false, Bool.or_self, Bool.false_eq_true, if_false,
      Option.map_eq_some_iff, trace_eq_some_iff]
    constructor
    · rintro ⟨place, ⟨hleads, hshort⟩, hpath⟩
      exact ⟨⟨hzero, hne, hshort⟩, place, hleads, hpath⟩
    · rintro ⟨⟨-, -, hshort⟩, place, hleads, hpath⟩
      exact ⟨place, ⟨hleads, hshort⟩, hpath⟩
  · rw [if_pos (by simpa [imp_iff_not_or, or_comm] using hask)]
    exact ⟨nofun, fun h => absurd ⟨h.1.1, h.1.2.1⟩ hask⟩

/-! ### Directories that may be missing -/

/-- What is a directory if it is there at all: the way of the path, which must not be too long, comes to
a directory, or to one that lacks the next name. -/
def IsGroup (fs : FileSystem) (path : RawPath) : Prop :=
  RawPath.IsAskable path ∧
    (fs.IsMissing path ∨ ∃ place, fs.LeadsTo path place ∧ (fs.entries? place.node).isSome)

theorem isGroup_iff (hne : path ≠ []) :
    fs.IsGroup path ↔ fs.resolve path = .error .noEntry ∨ fs.isDirectory path = true := by
  rw [resolve_eq_noEntry_iff hne, isDirectory_iff]
  constructor
  · rintro ⟨hask, hmissing | hdirectory⟩
    · exact .inl ⟨hask, hmissing⟩
    · exact .inr ⟨hne, hask, hdirectory⟩
  · rintro (⟨hask, hmissing⟩ | ⟨-, hask, hdirectory⟩)
    · exact ⟨hask, .inl hmissing⟩
    · exact ⟨hask, .inr hdirectory⟩

/-- What is no directory has nothing in it that could be one or be missing. -/
theorem IsGroup.of_join (h : fs.IsGroup (path.join name)) (hpath : RawPath.IsOpen path)
    (hname : RawPath.IsStep name) : fs.IsGroup path := by
  have hask := h.1
  rw [isGroup_iff (hname.isOpen_join path).ne_nil, isDirectory] at h
  rw [isGroup_iff hpath.ne_nil, isDirectory]
  cases hresolve : fs.resolve path with
  | error code =>
      obtain ⟨left, hentry⟩ := fs.resolve_join hpath hname hask
      rw [hresolve] at hentry
      rw [hentry] at h
      rcases h with h | h
      · exact .inl h
      · cases h
  | ok place =>
      right
      cases hentries : fs.entries? place.node with
      | some entries =>
          dsimp only
          rw [hentries]
          rfl
      | none =>
          obtain ⟨left, hentry⟩ := resolve_join_of_ok hpath hname hask hresolve
          have hwalk : fs.walk true left [name] place = .error .notDirectory := by
            rw [walk, hentries]
          rw [hentry, hwalk] at h
          rcases h with h | h <;> cases h

end FileSystem

end DaqBus
