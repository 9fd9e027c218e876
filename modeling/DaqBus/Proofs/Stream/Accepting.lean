import DaqBus.Proofs.Block.Transfer
import DaqBus.Stream.Script

/-!
# Bytes that a stream accepts

A write goes on after short writes and interruptions until all bytes are accepted or a write fails. How
far it comes is told by the stream alone: it stops at the first failure that stands behind less room than
the bytes need, and what is accepted until then is their front.
-/

namespace DaqBus

open ByteStream

namespace WriteEntry

/-- How the write fails that meets the entry, if it does: one that accepts nothing fails as well. -/
def failure : WriteEntry → Option Fault
  | accept 0 => some (.kind .writeZero)
  | accept (_ + 1) => none
  | fault f => if f.isInterrupted then none else some f

def room : WriteEntry → Nat
  | accept count => count
  | fault _ => 0

theorem failure_of_interrupted {f : Fault} (hf : f.isInterrupted = true) : (fault f).failure = none :=
  if_pos hf

theorem failure_of_fault {f : Fault} (hf : f.isInterrupted = false) : (fault f).failure = some f :=
  if_neg (by rw [hf]; decide)

end WriteEntry

namespace Script

/-- The bytes that some writes accept before the first of them that fails. -/
def room : List WriteEntry → Nat
  | [] => 0
  | entry :: writes => if entry.failure.isSome then 0 else entry.room + room writes

/-- The failure that a write of so many bytes meets, if there is not room for all of them before it. -/
def writeFailure (count : Nat) (s : Script) : Option Fault :=
  if count ≤ room s.writes then none else s.writes.findSome? (·.failure)

/-- A flush is tried once, so that an interruption fails it like any other fault. -/
def flushFailure (s : Script) : Option Fault := s.flushes.headD none

/-- How many of so many bytes are accepted. -/
def amount (count : Nat) (s : Script) : Nat :=
  if (s.writeFailure count).isNone then count else room s.writes

/-! ### Along the writes -/

variable {s : Script} {entry : WriteEntry} {writes : List WriteEntry} {count : Nat} {fault : Fault}

theorem room_cons_of_failure (hentry : entry.failure = some fault) : room (entry :: writes) = 0 := by
  rw [room, hentry]
  rfl

theorem room_cons (hentry : entry.failure = none) :
    room (entry :: writes) = entry.room + room writes := by
  rw [room, hentry]
  rfl

theorem writeFailure_zero (s : Script) : s.writeFailure 0 = none := if_pos (Nat.zero_le _)

theorem writeFailure_of_failure (hwrites : s.writes = entry :: writes)
    (hentry : entry.failure = some fault) (hcount : count ≠ 0) :
    s.writeFailure count = some fault := by
  rw [writeFailure, hwrites, room_cons_of_failure hentry, if_neg (by omega),
    List.findSome?_cons_of_isSome (by rw [hentry]; rfl), hentry]

theorem writeFailure_cons (hwrites : s.writes = entry :: writes) (hentry : entry.failure = none)
    (count : Nat) :
    s.writeFailure count = ({ s with writes } : Script).writeFailure (count - entry.room) := by
  have hroom : count ≤ entry.room + room writes ↔ count - entry.room ≤ room writes := by omega
  rw [writeFailure, writeFailure, hwrites, room_cons hentry,
    List.findSome?_cons_of_isNone (by rw [hentry]; rfl)]
  simp only [hroom]

theorem room_lt_of_writeFailure (h : s.writeFailure count = some fault) : room s.writes < count := by
  apply Nat.lt_of_not_le
  intro hle
  rw [writeFailure, if_pos hle] at h
  cases h

theorem room_append_cons {front : List WriteEntry} (hfront : ∀ e ∈ front, e.failure = none)
    (hentry : entry.failure = some fault) : room (front ++ entry :: writes) = room front := by
  induction front with
  | nil => exact room_cons_of_failure hentry
  | cons first front ih =>
      have hfirst := hfront first List.mem_cons_self
      rw [List.cons_append, room_cons hfirst, room_cons hfirst,
        ih fun e he => hfront e (List.mem_cons_of_mem _ he)]

/-- The failure of a write stands behind entries that fail none and have too little room. -/
theorem writeFailure_eq_some_iff : s.writeFailure count = some fault ↔
    ∃ front entry rest, s.writes = front ++ entry :: rest ∧ entry.failure = some fault ∧
      (∀ e ∈ front, e.failure = none) ∧ room front < count := by
  constructor
  · intro h
    have hless := room_lt_of_writeFailure h
    rw [writeFailure, if_neg (Nat.not_le.mpr hless)] at h
    obtain ⟨front, entry, rest, hwrites, hentry, hfront⟩ := List.findSome?_eq_some_iff.mp h
    rw [hwrites, room_append_cons hfront hentry] at hless
    exact ⟨front, entry, rest, hwrites, hentry, hfront, hless⟩
  · rintro ⟨front, entry, rest, hwrites, hentry, hfront, hless⟩
    rw [← room_append_cons hfront hentry, ← hwrites] at hless
    rw [writeFailure, if_neg (Nat.not_le.mpr hless)]
    exact List.findSome?_eq_some_iff.mpr ⟨front, entry, rest, hwrites, hentry, hfront⟩

theorem amount_of_none (h : s.writeFailure count = none) : s.amount count = count := by
  rw [amount, h]
  rfl

theorem amount_of_some (h : s.writeFailure count = some fault) : s.amount count = room s.writes := by
  rw [amount, h]
  rfl

theorem amount_cons (hwrites : s.writes = entry :: writes) (hentry : entry.failure = none)
    (count : Nat) :
    s.amount count =
      min entry.room count + ({ s with writes } : Script).amount (count - entry.room) := by
  have hcons := writeFailure_cons hwrites hentry count
  cases hfailure : s.writeFailure count with
  | none =>
      rw [amount_of_none hfailure, amount_of_none (hcons.symm.trans hfailure)]
      omega
  | some fault =>
      have hlater := hcons.symm.trans hfailure
      have hless : room writes < count - entry.room := room_lt_of_writeFailure hlater
      rw [amount_of_some hfailure, amount_of_some hlater, hwrites, room_cons hentry]
      show entry.room + room writes = min entry.room count + room writes
      omega

end Script

/-! ### Writes -/

namespace ByteStream

variable {σ : Type} [ByteStream σ] {s s' : σ} {bs : Bytes} {fault : Fault}

theorem writeAll_of_interrupted (hbs : bs ≠ []) (hwrite : write bs s = (.error fault, s'))
    (hfault : fault.isInterrupted = true) : writeAll bs s = writeAll bs s' := by
  rw [writeAll, dif_neg hbs]
  split <;> rename_i heq <;> rw [hwrite] at heq <;> cases heq
  rw [dif_pos hfault]

theorem writeAll_of_failed (hbs : bs ≠ []) (hwrite : write bs s = (.error fault, s'))
    (hfault : fault.isInterrupted = false) : writeAll bs s = (.error fault, s') := by
  rw [writeAll, dif_neg hbs]
  split <;> rename_i heq <;> rw [hwrite] at heq <;> cases heq
  rw [dif_neg (by rw [hfault]; decide)]

theorem writeAll_of_refused (hbs : bs ≠ []) (hwrite : write bs s = (.ok 0, s')) :
    writeAll bs s = (.error (.kind .writeZero), s') := by
  rw [writeAll, dif_neg hbs]
  split <;> rename_i heq <;> rw [hwrite] at heq <;> cases heq
  rfl

end ByteStream

namespace Script

variable {s : Script} {entry : WriteEntry} {writes : List WriteEntry} {count : Nat}

theorem write_fault {fault : Fault} (hwrites : s.writes = .fault fault :: writes) (bs : Bytes) :
    ByteStream.write bs s = (.error fault, { s with writes }) := by
  show Script.write bs s = _
  rw [Script.write, hwrites]

theorem write_accept (hwrites : s.writes = .accept count :: writes) (bs : Bytes) :
    ByteStream.write bs s =
      (.ok (min count bs.length), { s with writes, accepted := s.accepted ++ bs.take count }) := by
  show Script.write bs s = _
  rw [Script.write, hwrites]

theorem write_freely (hwrites : s.writes = []) (bs : Bytes) :
    ByteStream.write bs s = (.ok bs.length, { s with accepted := s.accepted ++ bs }) := by
  show Script.write bs s = _
  rw [Script.write, hwrites]

theorem writeAll_of_failure {fault : Fault} {bs : Bytes} (hwrites : s.writes = entry :: writes)
    (hentry : entry.failure = some fault) (hbs : bs ≠ []) :
    writeAll bs s = (.error fault, { s with writes }) := by
  cases entry with
  | accept count =>
      cases count with
      | zero =>
          cases hentry
          have hwrite := write_accept hwrites bs
          rw [Nat.zero_min, List.take_zero, List.append_nil] at hwrite
          exact writeAll_of_refused hbs hwrite
      | succ count => cases hentry
  | fault f =>
      cases hfault : f.isInterrupted with
      | true =>
          rw [WriteEntry.failure_of_interrupted hfault] at hentry
          cases hentry
      | false =>
          rw [WriteEntry.failure_of_fault hfault] at hentry
          cases hentry
          exact writeAll_of_failed hbs (write_fault hwrites bs) hfault

/-- An entry that fails no write takes its room, and the write goes on with the bytes behind it. -/
theorem writeAll_of_entry {bs : Bytes} (hwrites : s.writes = entry :: writes)
    (hentry : entry.failure = none) (hbs : bs ≠ []) :
    writeAll bs s = writeAll (bs.drop entry.room)
      { s with writes, accepted := s.accepted ++ bs.take entry.room } := by
  cases entry with
  | accept count =>
      cases count with
      | zero => cases hentry
      | succ count =>
          have hpos : 0 < bs.length := List.length_pos_iff.mpr hbs
          obtain ⟨n, hn⟩ : ∃ n, min (count + 1) bs.length = n + 1 :=
            Nat.exists_eq_succ_of_ne_zero (by omega)
          have hwrite := write_accept hwrites bs
          rw [hn] at hwrite
          rw [writeAll_of_accepted hbs hwrite, ← hn, ← List.drop_eq_drop_min]
          rfl
  | fault f =>
      cases hfault : f.isInterrupted with
      | true =>
          rw [writeAll_of_interrupted hbs (write_fault hwrites bs) hfault, WriteEntry.room,
            List.drop_zero, List.take_zero, List.append_nil]
      | false =>
          rw [WriteEntry.failure_of_fault hfault] at hentry
          cases hentry

/-- **What a write of all bytes comes to.** It accepts the front of the bytes, up to the first failure
that it meets. -/
theorem writeAll_eq (bs : Bytes) (s : Script) :
    ∃ left, writeAll bs s = ((s.writeFailure bs.length).elim (.ok ()) .error,
      { s with writes := left, accepted := s.accepted ++ bs.take (s.amount bs.length) }) := by
  induction hwrites : s.writes generalizing bs s with
  | nil =>
      have hfailure : s.writeFailure bs.length = none := by
        rw [writeFailure, hwrites]
        exact ite_self none
      have hall : writeAll bs s = (.ok (), { s with accepted := s.accepted ++ bs }) := by
        by_cases hbs : bs = []
        · rw [hbs, writeAll_nil, List.append_nil]
        · obtain ⟨n, hn⟩ := Nat.exists_eq_succ_of_ne_zero (mt List.length_eq_zero_iff.mp hbs)
          have hwrite := write_freely hwrites bs
          rw [hn] at hwrite
          rw [writeAll_of_accepted hbs hwrite, ← Nat.succ_eq_add_one, ← hn, List.drop_length,
            writeAll_nil]
      refine ⟨s.writes, ?_⟩
      rw [hall, hfailure, amount_of_none hfailure, List.take_length]
      rfl
  | cons entry writes ih =>
      by_cases hbs : bs = []
      · refine ⟨s.writes, ?_⟩
        rw [hbs, writeAll_nil, List.length_nil, writeFailure_zero, List.take_nil, List.append_nil]
        rfl
      cases hentry : entry.failure with
      | some fault =>
          have hfailure := writeFailure_of_failure hwrites hentry (mt List.length_eq_zero_iff.mp hbs)
          refine ⟨writes, ?_⟩
          rw [writeAll_of_failure hwrites hentry hbs, hfailure, amount_of_some hfailure, hwrites,
            room_cons_of_failure hentry, List.take_zero, List.append_nil]
          rfl
      | none =>
          obtain ⟨left, hleft⟩ := ih (bs.drop entry.room)
            { s with writes, accepted := s.accepted ++ bs.take entry.room } rfl
          refine ⟨left, ?_⟩
          rw [writeAll_of_entry hwrites hentry hbs, hleft, List.length_drop,
            writeFailure_cons hwrites hentry, amount_cons hwrites hentry, List.take_add,
            ← List.take_eq_take_min, ← List.drop_eq_drop_min, List.append_assoc]
          rfl

theorem flush_eq (s : Script) :
    ByteStream.flush s = (s.flushFailure.elim (.ok ()) .error, { s with flushes := s.flushes.tail }) := by
  show Script.flush s = _
  obtain ⟨reads, writes, flushes, accepted⟩ := s
  cases flushes with
  | nil => rfl
  | cons entry flushes => cases entry <;> rfl

/-- The first failure that a delivery of so many bytes meets. -/
def failure (count : Nat) (s : Script) : Option Fault := (s.writeFailure count).or s.flushFailure

theorem deliver_eq (bs : Bytes) (s : Script) :
    ∃ writes flushes, deliver bs s = ((s.failure bs.length).elim (.ok ()) .error,
      { s with writes, flushes, accepted := s.accepted ++ bs.take (s.amount bs.length) }) := by
  obtain ⟨writes, hwrite⟩ := writeAll_eq bs s
  rw [deliver, hwrite, failure]
  cases s.writeFailure bs.length with
  | some fault => exact ⟨writes, s.flushes, rfl⟩
  | none => exact ⟨writes, s.flushes.tail, flush_eq _⟩

end Script

end DaqBus
