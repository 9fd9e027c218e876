import DaqBus.Proofs.Files.Walk

/-!
# Content is not tree

A walk looks at directories and links only. So replacing the content of a file leaves every path where it
leads, and of all nodes only the file is another one.
-/

namespace DaqBus.FileSystem

variable {fs after : FileSystem}

/-- Two file systems with the same directories and links. -/
structure SameTree (fs after : FileSystem) : Prop where
  entries : ∀ id, after.entries? id = fs.entries? id
  links : ∀ id target, after.node? id = some (.link target) ↔ fs.node? id = some (.link target)
  home : after.home = fs.home

theorem SameTree.walk_eq (h : SameTree fs after) (through : Bool) (links : Nat) (names : List Bytes)
    (here : Place) : after.walk through links names here = fs.walk through links names here := by
  have hentries (place : Place) : after.entries? place.node = fs.entries? place.node :=
    h.entries place.node
  -- Every case is told by the entries of the place and by whether the name that was found is a link.
  fun_induction walk fs through links names here with
  | case1 links here => rw [walk]
  | case2 links name rest here hnone => rw [walk, hentries, hnone]
  | case3 links rest here entries hsome ih =>
      rw [walk, hentries, hsome]
      simpa only [if_true] using ih
  | case4 links rest here entries hsome hdot ih =>
      rw [walk, hentries, hsome]
      simpa only [hdot, if_true, if_false] using ih
  | case5 links name rest here entries hsome hdot hup hlong =>
      rw [walk, hentries, hsome]
      simp only [hdot, hup, hlong, if_true, if_false]
  | case6 links name here entries hsome hdot hup hshort hnone =>
      rw [walk, hentries, hsome]
      simp only [hdot, hup, hshort, hnone, if_true, if_false]
  | case7 links name rest here entries hsome hdot hup hshort hnone hrest =>
      rw [walk, hentries, hsome]
      simp only [hdot, hup, hshort, hnone, hrest, if_false]
  | case8 links name rest here entries hsome hdot hup hshort id hid target hlink hend =>
      have hafter := (h.links id target).mpr hlink
      rw [walk, hentries, hsome]
      simp only [hdot, hup, hshort, hid, hafter, hend, if_true, if_false]
  | case9 name rest here entries hsome hdot hup hshort id hid target hlink hend =>
      have hafter := (h.links id target).mpr hlink
      rw [walk, hentries, hsome]
      simp only [hdot, hup, hshort, hid, hafter, hend, if_false]
      rfl
  | case10 name rest here entries hsome hdot hup hshort id hid target hlink hend links start ih =>
      have hafter := (h.links id target).mpr hlink
      rw [walk, hentries, hsome]
      simp only [hdot, hup, hshort, hid, hafter, hend, if_false]
      exact ih
  | case11 links name rest here entries hsome hdot hup hshort id hid hlink ih =>
      rw [walk, hentries, hsome]
      simp only [hdot, hup, hshort, hid, if_false]
      cases hnode : after.node? id with
      | none => exact ih
      | some node =>
          cases node with
          | link target => exact absurd ((h.links id target).mp hnode) (hlink target)
          | file content mode => exact ih
          | directory entries mode => exact ih

theorem SameTree.resolve_eq (h : SameTree fs after) (path : RawPath) :
    after.resolve path = fs.resolve path := by
  have hstart : after.start path = fs.start path := by rw [start, start, h.home]
  rw [resolve, resolve, follow, follow, hstart, h.walk_eq]

variable {id : NodeId} {held : Bytes} {mode : UInt32}

theorem setContent_of_file (hfile : fs.node? id = some (.file held mode)) (content : Bytes) :
    fs.setContent id content = { fs with nodes := fs.nodes.set id (.file content mode) } := by
  rw [setContent, hfile]

theorem node?_setContent (hfile : fs.node? id = some (.file held mode)) (content : Bytes)
    (other : NodeId) :
    (fs.setContent id content).node? other =
      if other = id then some (.file content mode) else fs.node? other := by
  obtain ⟨hlt, -⟩ := List.getElem?_eq_some_iff.mp hfile
  rw [setContent_of_file hfile]
  show (fs.nodes.set id (.file content mode))[other]? = _
  by_cases hother : other = id
  · rw [hother, List.getElem?_set_self hlt, if_pos rfl]
  · rw [List.getElem?_set_ne (Ne.symm hother), if_neg hother]
    rfl

theorem sameTree_setContent (hfile : fs.node? id = some (.file held mode)) (content : Bytes) :
    SameTree fs (fs.setContent id content) := by
  have hnode := node?_setContent hfile content
  refine ⟨?_, ?_, ?_⟩
  · intro other
    rw [entries?, entries?, hnode]
    by_cases hother : other = id
    · rw [if_pos hother, hother, hfile]
    · rw [if_neg hother]
  · intro other target
    rw [hnode]
    by_cases hother : other = id
    · rw [if_pos hother, hother, hfile]
      simp
    · rw [if_neg hother]
  · rw [setContent_of_file hfile]

end DaqBus.FileSystem
