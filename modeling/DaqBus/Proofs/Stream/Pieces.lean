import DaqBus.Proofs.Stream.Consuming
import DaqBus.Stream.Script

/-!
# Bytes in pieces

A stream may hand out its bytes in any pieces and may be interrupted between them. As long as it does
nothing worse, a bounded read finds what it would find in one piece: the front of the bytes up to the
limit. What is left is in pieces again, the last of them cut where the limit was reached, so the same
holds for the next read.
-/

namespace DaqBus

open ByteStream

/-- A piece that is not empty, or an interruption. -/
def ReadEntry.isSteady : ReadEntry → Bool
  | chunk bs => !bs.isEmpty
  | ended => false
  | fault f => f.isInterrupted

def ReadEntry.bytes : ReadEntry → Bytes
  | chunk bs => bs
  | _ => []

namespace Script

/-- The bytes of all entries, joined. -/
def joined (entries : List ReadEntry) : Bytes := entries.flatMap ReadEntry.bytes

/-- The bytes that have not been read. -/
def unread (s : Script) : Bytes := joined s.reads

/-- The stream gives its bytes in some pieces and does nothing worse than to be interrupted. -/
def IsSteady (s : Script) : Prop := ∀ entry ∈ s.reads, entry.isSteady

instance (s : Script) : Decidable s.IsSteady := inferInstanceAs (Decidable (∀ entry ∈ s.reads, _))

/-- The stream that gives some bytes in one piece. -/
def whole (bs : Bytes) : Script where
  reads := if bs = [] then [] else [.chunk bs]

variable {s : Script} {entries rest : List ReadEntry} {limit : Nat}

theorem joined_cons (entry : ReadEntry) (entries : List ReadEntry) :
    joined (entry :: entries) = entry.bytes ++ joined entries := List.flatMap_cons

theorem isSteady_whole (bs : Bytes) : (whole bs).IsSteady := by
  intro entry hentry
  by_cases hbs : bs = []
  · rw [whole, if_pos hbs] at hentry
    cases hentry
  · rw [whole, if_neg hbs, List.mem_singleton] at hentry
    rw [hentry, ReadEntry.isSteady]
    simpa using hbs

theorem unread_whole (bs : Bytes) : (whole bs).unread = bs := by
  rw [unread, whole]
  by_cases hbs : bs = []
  · rw [if_pos hbs, hbs]
    rfl
  · rw [if_neg hbs, joined_cons]
    exact List.append_nil bs

end Script

namespace ByteStream

variable {σ : Type} [ByteStream σ] {s s' : σ}

theorem readUpTo_of_interrupted {limit : Nat} {fault : Fault} (hlimit : limit ≠ 0)
    (hread : read limit s = (.error fault, s')) (hfault : fault.isInterrupted = true) :
    readUpTo limit s = readUpTo limit s' := by
  rw [readUpTo, if_neg hlimit]
  split <;> rename_i heq <;> rw [hread] at heq <;> cases heq
  rw [dif_pos hfault]

/-- A piece goes in front of what is read after it. -/
theorem readUpTo_of_piece {limit : Nat} {piece : Bytes} (hlimit : limit ≠ 0) (hpiece : piece ≠ [])
    (hread : read limit s = (.ok piece, s')) :
    readUpTo limit s = ((readUpTo (limit - piece.length) s').1.map (piece ++ ·),
      (readUpTo (limit - piece.length) s').2) := by
  obtain ⟨b, bs, rfl⟩ := List.exists_cons_of_ne_nil hpiece
  rw [readUpTo_of_chunk hlimit hread, List.length_cons]
  rcases readUpTo (limit - (bs.length + 1)) s' with ⟨fault | more, last⟩ <;> rfl

theorem map_nil_append (outcome : Except Fault Bytes) : outcome.map (([] : Bytes) ++ ·) = outcome := by
  cases outcome <;> rfl

theorem map_append_map (front back : Bytes) (outcome : Except Fault Bytes) :
    (outcome.map (back ++ ·)).map (front ++ ·) = outcome.map (front ++ back ++ ·) := by
  cases outcome with
  | error fault => rfl
  | ok bs => exact congrArg Except.ok (List.append_assoc front back bs).symm

end ByteStream

namespace Script

variable {s : Script} {entries rest : List ReadEntry} {limit : Nat} {bs : Bytes}

theorem read_chunk (hreads : s.reads = .chunk bs :: rest) (hlength : bs.length ≤ limit) :
    ByteStream.read limit s = (.ok bs, { s with reads := rest }) := by
  show Script.read limit s = _
  rw [Script.read, hreads]
  exact if_pos hlength

theorem read_chunk_cut (hreads : s.reads = .chunk bs :: rest) (hlength : limit < bs.length) :
    ByteStream.read limit s =
      (.ok (bs.take limit), { s with reads := .chunk (bs.drop limit) :: rest }) := by
  show Script.read limit s = _
  rw [Script.read, hreads]
  exact if_neg (Nat.not_le.mpr hlength)

theorem read_fault {fault : Fault} (hreads : s.reads = .fault fault :: rest) :
    ByteStream.read limit s = (.error fault, { s with reads := rest }) := by
  show Script.read limit s = _
  rw [Script.read, hreads]

/-- An entry that the limit has room for goes in front of what is read after it. -/
theorem readUpTo_entry {entry : ReadEntry} (hreads : s.reads = entry :: rest)
    (hentry : entry.isSteady) (hlimit : limit ≠ 0) (hfits : entry.bytes.length ≤ limit) :
    readUpTo limit s =
      ((readUpTo (limit - entry.bytes.length) { s with reads := rest }).1.map (entry.bytes ++ ·),
        (readUpTo (limit - entry.bytes.length) { s with reads := rest }).2) := by
  cases entry with
  | ended => cases hentry
  | fault fault =>
      rw [readUpTo_of_interrupted hlimit (read_fault hreads) hentry]
      exact Prod.ext (map_nil_append _).symm rfl
  | chunk bs =>
      have hbs : bs ≠ [] := by simpa [ReadEntry.isSteady] using hentry
      exact readUpTo_of_piece hlimit hbs (read_chunk hreads hfits)

/-- An entry that is longer than the limit is cut there, and the second part of it stays in front. -/
theorem readUpTo_entry_cut {entry : ReadEntry} (hreads : s.reads = entry :: rest) (hlimit : limit ≠ 0)
    (hcut : limit < entry.bytes.length) :
    readUpTo limit s = (.ok (entry.bytes.take limit),
      { s with reads := .chunk (entry.bytes.drop limit) :: rest }) := by
  cases entry with
  | ended => exact absurd hcut (Nat.not_lt_zero limit)
  | fault fault => exact absurd hcut (Nat.not_lt_zero limit)
  | chunk bs =>
      have hlength : (bs.take limit).length = limit := List.length_take_of_le (Nat.le_of_lt hcut)
      have hfront : bs.take limit ≠ [] := by
        rw [← List.length_pos_iff, hlength]
        exact Nat.pos_of_ne_zero hlimit
      rw [readUpTo_of_piece hlimit hfront (read_chunk_cut hreads hcut), hlength, Nat.sub_self,
        readUpTo_zero]
      exact congrArg (fun front => (Except.ok front, _)) (List.append_nil (bs.take limit))

/-- If the pieces in front are enough for a bounded read, it leaves what remains of them. -/
theorem readUpTo_of_enough (hreads : s.reads = entries ++ rest)
    (hsteady : ∀ entry ∈ entries, entry.isSteady) (hlimit : limit ≤ (joined entries).length) :
    ∃ left, (∀ entry ∈ left, ReadEntry.isSteady entry) ∧
      joined left = (joined entries).drop limit ∧
      readUpTo limit s = (.ok ((joined entries).take limit), { s with reads := left ++ rest }) := by
  induction entries generalizing s limit with
  | nil =>
      obtain rfl := Nat.le_zero.mp hlimit
      exact ⟨[], hsteady, rfl, by rw [readUpTo_zero, List.take_zero, ← hreads]⟩
  | cons entry entries ih =>
      by_cases hzero : limit = 0
      · subst hzero
        exact ⟨entry :: entries, hsteady, rfl, by rw [readUpTo_zero, List.take_zero, ← hreads]⟩
      obtain ⟨hentry, hrest⟩ := List.forall_mem_cons.mp hsteady
      rw [joined_cons] at hlimit ⊢
      by_cases hfits : entry.bytes.length ≤ limit
      · let next : Script := { s with reads := entries ++ rest }
        have hless : limit - entry.bytes.length ≤ (joined entries).length := by
          rw [List.length_append] at hlimit
          omega
        obtain ⟨left, hleft, hjoined, hafter⟩ := ih (s := next) rfl hrest hless
        refine ⟨left, hleft, ?_, ?_⟩
        · rw [hjoined, List.drop_append, List.drop_of_length_le hfits, List.nil_append]
        · have hread : readUpTo limit s =
              ((readUpTo (limit - entry.bytes.length) next).1.map (entry.bytes ++ ·),
                (readUpTo (limit - entry.bytes.length) next).2) :=
            readUpTo_entry hreads hentry hzero hfits
          rw [hread, hafter, List.take_append, List.take_of_length_le hfits]
          rfl
      · have hcut := Nat.not_le.mp hfits
        refine ⟨.chunk (entry.bytes.drop limit) :: entries, ?_, ?_, ?_⟩
        · refine List.forall_mem_cons.mpr ⟨?_, hrest⟩
          simpa [ReadEntry.isSteady] using hcut
        · rw [joined_cons, List.drop_append_of_le_length (Nat.le_of_lt hcut)]
          rfl
        · rw [List.take_append_of_le_length (Nat.le_of_lt hcut)]
          exact readUpTo_entry_cut hreads hzero hcut

/-- If they are not, the read goes on behind them with what is left of its limit. -/
theorem readUpTo_of_short (hreads : s.reads = entries ++ rest)
    (hsteady : ∀ entry ∈ entries, entry.isSteady) (hlimit : (joined entries).length < limit) :
    readUpTo limit s =
      ((readUpTo (limit - (joined entries).length) { s with reads := rest }).1.map (joined entries ++ ·),
        (readUpTo (limit - (joined entries).length) { s with reads := rest }).2) := by
  induction entries generalizing s limit with
  | nil =>
      have hsame : { s with reads := rest } = s := by rw [← hreads.trans (List.nil_append rest)]
      rw [hsame]
      exact Prod.ext (map_nil_append _).symm rfl
  | cons entry entries ih =>
      obtain ⟨hentry, hrest⟩ := List.forall_mem_cons.mp hsteady
      rw [joined_cons, List.length_append] at hlimit
      let next : Script := { s with reads := entries ++ rest }
      have hless : (joined entries).length < limit - entry.bytes.length := by omega
      have hafter := ih (s := next) rfl hrest hless
      have hread : readUpTo limit s =
          ((readUpTo (limit - entry.bytes.length) next).1.map (entry.bytes ++ ·),
            (readUpTo (limit - entry.bytes.length) next).2) :=
        readUpTo_entry hreads hentry (by omega) (by omega)
      rw [joined_cons, List.length_append, hread, hafter, Nat.sub_sub]
      exact Prod.ext (map_append_map _ _ _) rfl

/-- **Any pieces read as one.** -/
theorem readUpTo_of_steady (hs : s.IsSteady) (limit : Nat) :
    ∃ next : Script, next.IsSteady ∧ next.unread = s.unread.drop limit ∧
      readUpTo limit s = (.ok (s.unread.take limit), next) := by
  have hreads : s.reads = s.reads ++ [] := (List.append_nil _).symm
  by_cases hlimit : limit ≤ s.unread.length
  · obtain ⟨left, hleft, hjoined, hread⟩ := readUpTo_of_enough hreads hs hlimit
    rw [List.append_nil] at hread
    exact ⟨{ s with reads := left }, hleft, hjoined, hread⟩
  · have hshort := Nat.not_le.mp hlimit
    have hempty : readUpTo (limit - s.unread.length) { s with reads := [] } =
        (.ok [], { s with reads := [] }) := readUpTo_of_ended (Nat.sub_ne_zero_of_lt hshort) rfl
    refine ⟨{ s with reads := [] }, nofun, ?_, ?_⟩
    · exact (List.drop_of_length_le (Nat.le_of_lt hshort)).symm
    · rw [List.take_of_length_le (Nat.le_of_lt hshort), readUpTo_of_short hreads hs hshort]
      show (Except.map (joined s.reads ++ ·) (readUpTo (limit - s.unread.length) _).1,
        (readUpTo (limit - s.unread.length) _).2) = _
      rw [hempty]
      show (Except.ok (s.unread ++ []), _) = _
      rw [List.append_nil]

/-- A failure behind too few bytes ends the read, and the bytes are lost. -/
theorem readUpTo_of_fault {fault : Fault} (hreads : s.reads = entries ++ .fault fault :: rest)
    (hsteady : ∀ entry ∈ entries, entry.isSteady) (hlimit : (joined entries).length < limit)
    (hfault : fault.isInterrupted = false) :
    readUpTo limit s = (.error fault, { s with reads := rest }) := by
  have hread : readUpTo (limit - (joined entries).length) { s with reads := .fault fault :: rest } =
      (.error fault, { s with reads := rest }) :=
    readUpTo_of_failed (Nat.sub_ne_zero_of_lt hlimit) rfl hfault
  rw [readUpTo_of_short hreads hsteady hlimit, hread]
  rfl

end Script

end DaqBus
