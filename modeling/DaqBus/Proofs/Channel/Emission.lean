import DaqBus.Proofs.Stream.Accepting

/-!
# Blocks on streams that fail

A write of a block is two writes and two flushes. Each of them may fail, and a write may do so at any of
its bytes. Wherever it stops, the record has gone before the payload: the data stream is not touched until
the record is accepted as a whole and flushed, and what the two streams have accepted are the fronts of
what they should accept.
-/

namespace DaqBus

open Control ByteStream

namespace Script

variable {s : Script} {bs : Bytes}

theorem take_amount_eq_iff : bs.take (s.amount bs.length) = bs ↔ s.writeFailure bs.length = none := by
  cases hfailure : s.writeFailure bs.length with
  | none =>
      rw [amount_of_none hfailure, List.take_length]
      exact iff_of_true rfl rfl
  | some fault =>
      have hless := room_lt_of_writeFailure hfailure
      refine iff_of_false ?_ nofun
      intro hall
      have hlength := congrArg List.length hall
      rw [amount_of_some hfailure, List.length_take] at hlength
      omega

/-- A delivery meets no failure exactly if all bytes are accepted and the flush succeeds. -/
theorem failure_eq_none_iff : s.failure bs.length = none ↔
    s.accepted ++ bs.take (s.amount bs.length) = s.accepted ++ bs ∧ s.flushFailure = none := by
  rw [failure, Option.or_eq_none_iff, List.append_cancel_left_eq, take_amount_eq_iff]

end Script

/-! ### Writes that only take longer -/

/-- The second writes are the first ones with short writes and interruptions put in. Behind the last
entry everything is accepted, so there a short write may be put in as well. -/
inductive Delayed : List WriteEntry → List WriteEntry → Prop
  | nil : Delayed [] []
  | entry {writes later : List WriteEntry} (entry : WriteEntry) (h : Delayed writes later) :
      Delayed (entry :: writes) (entry :: later)
  | interrupted {writes later : List WriteEntry} {fault : Fault}
      (hfault : fault.isInterrupted = true) (h : Delayed writes later) :
      Delayed writes (.fault fault :: later)
  | short {writes later : List WriteEntry} (front rest : Nat)
      (h : Delayed (.accept (rest + 1) :: writes) later) :
      Delayed (.accept (front + 1 + (rest + 1)) :: writes) (.accept (front + 1) :: later)
  | shortAtEnd {later : List WriteEntry} (front : Nat) (h : Delayed [] later) :
      Delayed [] (.accept (front + 1) :: later)

namespace Delayed

variable {writes later : List WriteEntry}

/-- Any writes of which none fails are as good as none at all. -/
theorem of_nil (h : ∀ entry ∈ writes, entry.failure = none) : Delayed [] writes := by
  induction writes with
  | nil => exact .nil
  | cons entry writes ih =>
      have hrest := ih fun e he => h e (List.mem_cons_of_mem _ he)
      have hentry := h entry List.mem_cons_self
      cases entry with
      | accept count =>
          cases count with
          | zero => cases hentry
          | succ count => exact .shortAtEnd count hrest
      | fault f =>
          cases hfault : f.isInterrupted with
          | true => exact .interrupted hfault hrest
          | false =>
              rw [WriteEntry.failure_of_fault hfault] at hentry
              cases hentry

theorem findSome?_failure (h : Delayed writes later) :
    later.findSome? (·.failure) = writes.findSome? (·.failure) := by
  induction h with
  | nil => rfl
  | entry entry h ih => rw [List.findSome?_cons, List.findSome?_cons, ih]
  | interrupted hfault h ih =>
      rw [List.findSome?_cons, WriteEntry.failure_of_interrupted hfault, ih]
  | short front rest h ih => exact ih
  | shortAtEnd front h ih => exact ih

/-- Delays leave the room before a failure as it is. -/
theorem room_eq (h : Delayed writes later) :
    Script.room later = Script.room writes ∨ writes.findSome? (·.failure) = none := by
  induction h with
  | nil => exact .inl rfl
  | entry entry h ih =>
      cases hentry : entry.failure with
      | some fault =>
          rw [Script.room_cons_of_failure hentry, Script.room_cons_of_failure hentry]
          exact .inl rfl
      | none =>
          rw [Script.room_cons hentry, Script.room_cons hentry, List.findSome?_cons, hentry]
          exact ih.imp_left (congrArg _)
  | interrupted hfault h ih =>
      rw [Script.room_cons (WriteEntry.failure_of_interrupted hfault), WriteEntry.room, Nat.zero_add]
      exact ih
  | short front rest h ih =>
      rw [Script.room_cons rfl, Script.room_cons rfl]
      rw [Script.room_cons rfl] at ih
      apply ih.imp_left
      intro hroom
      rw [hroom, ← Nat.add_assoc]
      rfl
  | shortAtEnd front h ih => exact .inr rfl

end Delayed

namespace Script

/-- A stream that does the same as another one, with short writes and interruptions put in. -/
structure Delays (s late : Script) : Prop where
  writes : Delayed s.writes late.writes
  flushes : late.flushes = s.flushes
  accepted : late.accepted = s.accepted

namespace Delays

variable {s late : Script}

theorem writeFailure_eq (h : s.Delays late) (count : Nat) :
    late.writeFailure count = s.writeFailure count := by
  rw [writeFailure, writeFailure, h.writes.findSome?_failure]
  rcases h.writes.room_eq with hroom | hnone
  · rw [hroom]
  · rw [hnone, ite_self, ite_self]

theorem amount_eq (h : s.Delays late) (count : Nat) : late.amount count = s.amount count := by
  cases hfailure : s.writeFailure count with
  | none => rw [amount_of_none hfailure, amount_of_none ((h.writeFailure_eq count).trans hfailure)]
  | some fault =>
      rw [amount_of_some hfailure, amount_of_some ((h.writeFailure_eq count).trans hfailure)]
      rcases h.writes.room_eq with hroom | hnone
      · exact hroom
      · rw [writeFailure, hnone, ite_self] at hfailure
        cases hfailure

theorem failure_eq (h : s.Delays late) (count : Nat) : late.failure count = s.failure count := by
  rw [failure, failure, h.writeFailure_eq, flushFailure, flushFailure, h.flushes]

end Delays

end Script

/-! ### Two streams -/

namespace Lane

/-- The first failure that a write of a block meets. -/
def firstFailure (block : RawBlock) (streams : Script × Script) : Option Fault :=
  (streams.1.failure block.control.length).or (streams.2.failure block.data.length)

/-- What a write of a block may do to two streams. -/
structure Emits (block : RawBlock) (before after : Script × Script) (outcome : Except Errno Unit) :
    Prop where
  control_prefix : ∃ front, front <+: block.control ∧ after.1.accepted = before.1.accepted ++ front
  data_prefix : ∃ front, front <+: block.data ∧ after.2.accepted = before.2.accepted ++ front
  control_first : after.2 ≠ before.2 →
    after.1.accepted = before.1.accepted ++ block.control ∧ before.1.flushFailure = none
  ok_iff : outcome = .ok () ↔
    after.1.accepted = before.1.accepted ++ block.control ∧ before.1.flushFailure = none ∧
    after.2.accepted = before.2.accepted ++ block.data ∧ before.2.flushFailure = none
  outcome_eq : outcome = (firstFailure block before).elim (.ok ()) fun fault => .error fault.errno

/-- What a write of a block comes to, and all that the streams have accepted after it. -/
def written (block : RawBlock) (streams : Script × Script) : Except Errno Unit × RawBlock :=
  let (outcome, after) := (ofPair .output).writeBlock block streams
  (outcome, ⟨after.1.accepted, after.2.accepted⟩)

variable {block : RawBlock} {control data : Script}

theorem writeBlock_of_failure {fault : Fault} (hlength : recordSize ≤ block.control.length)
    (hfailure : control.failure block.control.length = some fault) (data : Script) :
    ∃ control' : Script, (ofPair .output).writeBlock block (control, data) =
        (.error fault.errno, (control', data)) ∧
      control'.accepted =
        control.accepted ++ block.control.take (control.amount block.control.length) := by
  obtain ⟨writes, flushes, hcontrol⟩ := Script.deliver_eq block.control control
  rw [hfailure] at hcontrol
  rw [writeBlock_ofPair hlength, hcontrol]
  exact ⟨_, rfl, rfl⟩

theorem writeBlock_of_none (hlength : recordSize ≤ block.control.length)
    (hfailure : control.failure block.control.length = none) (data : Script) :
    ∃ control' data' : Script, (ofPair .output).writeBlock block (control, data) =
        ((data.failure block.data.length).elim (.ok ()) fun fault => .error fault.errno,
          (control', data')) ∧
      control'.accepted = control.accepted ++ block.control ∧
      data'.accepted = data.accepted ++ block.data.take (data.amount block.data.length) := by
  obtain ⟨writes, flushes, hcontrol⟩ := Script.deliver_eq block.control control
  obtain ⟨writes', flushes', hdata⟩ := Script.deliver_eq block.data data
  rw [hfailure, (Script.failure_eq_none_iff.mp hfailure).1] at hcontrol
  rw [writeBlock_ofPair hlength, hcontrol]
  show ∃ control' data' : Script, ((deliver block.data data).1.mapError Fault.errno,
    (_, (deliver block.data data).2)) = _ ∧ _
  rw [hdata]
  refine ⟨_, _, Prod.ext ?_ rfl, rfl, rfl⟩
  cases data.failure block.data.length <;> rfl

theorem emits_writeBlock (hlength : recordSize ≤ block.control.length) (streams : Script × Script) :
    Emits block streams ((ofPair .output).writeBlock block streams).2
      ((ofPair .output).writeBlock block streams).1 := by
  obtain ⟨control, data⟩ := streams
  cases hfailure : control.failure block.control.length with
  | some fault =>
      obtain ⟨control', hwrite, haccepted⟩ := writeBlock_of_failure hlength hfailure data
      have hincomplete : ¬ (control'.accepted = control.accepted ++ block.control ∧
          control.flushFailure = none) := by
        rw [haccepted, ← Script.failure_eq_none_iff, hfailure]
        nofun
      rw [hwrite]
      constructor
      case control_prefix => exact ⟨_, List.take_prefix _ _, haccepted⟩
      case data_prefix => exact ⟨[], List.nil_prefix, (List.append_nil _).symm⟩
      case control_first => exact fun h => absurd rfl h
      case ok_iff => exact iff_of_false nofun fun h => hincomplete ⟨h.1, h.2.1⟩
      case outcome_eq =>
        rw [firstFailure, hfailure]
        rfl
  | none =>
      obtain ⟨control', data', hwrite, hcontrol, hdata⟩ := writeBlock_of_none hlength hfailure data
      obtain ⟨-, hflush⟩ := Option.or_eq_none_iff.mp hfailure
      rw [hwrite]
      constructor
      case control_prefix => exact ⟨_, List.prefix_rfl, hcontrol⟩
      case data_prefix => exact ⟨_, List.take_prefix _ _, hdata⟩
      case control_first => exact fun _ => ⟨hcontrol, hflush⟩
      case ok_iff =>
        rw [hcontrol, hdata, ← Script.failure_eq_none_iff]
        cases data.failure block.data.length with
        | none => exact iff_of_true rfl ⟨rfl, hflush, rfl⟩
        | some fault => exact iff_of_false nofun fun h => nomatch h.2.2
      case outcome_eq =>
        rw [firstFailure, hfailure]
        rfl

theorem written_eq (hlength : recordSize ≤ block.control.length) (control data : Script) :
    written block (control, data) =
      ((firstFailure block (control, data)).elim (.ok ()) fun fault => .error fault.errno,
        ⟨control.accepted ++ block.control.take (control.amount block.control.length),
          if control.failure block.control.length = none then
            data.accepted ++ block.data.take (data.amount block.data.length)
          else data.accepted⟩) := by
  have houtcome := (emits_writeBlock hlength (control, data)).outcome_eq
  cases hfailure : control.failure block.control.length with
  | some fault =>
      obtain ⟨control', hwrite, hcontrol⟩ := writeBlock_of_failure hlength hfailure data
      rw [hwrite] at houtcome
      rw [written, hwrite, ← houtcome, if_neg nofun]
      dsimp only
      rw [hcontrol]
  | none =>
      obtain ⟨control', data', hwrite, hcontrol, hdata⟩ := writeBlock_of_none hlength hfailure data
      rw [hwrite] at houtcome
      rw [written, hwrite, ← houtcome, if_pos rfl]
      dsimp only
      rw [hcontrol, hdata, (Script.failure_eq_none_iff.mp hfailure).1]

theorem written_of_delays {control₂ data₂ : Script} (hlength : recordSize ≤ block.control.length)
    (hcontrol : control.Delays control₂) (hdata : data.Delays data₂) :
    written block (control₂, data₂) = written block (control, data) := by
  rw [written_eq hlength, written_eq hlength, firstFailure, firstFailure, hcontrol.failure_eq,
    hdata.failure_eq, hcontrol.amount_eq, hdata.amount_eq, hcontrol.accepted, hdata.accepted]

/-- **Record before payload.** Whatever two streams do with a write, they accept fronts of the record
and of the payload, the payload only behind a whole record and a flush, and the call tells the first
failure. Short writes and interruptions change nothing of it. -/
theorem writeBlock_emits {block : RawBlock} (hlength : recordSize ≤ block.control.length) :
    (∀ streams : Script × Script, Emits block streams ((ofPair .output).writeBlock block streams).2
      ((ofPair .output).writeBlock block streams).1) ∧
    ∀ streams late : Script × Script, streams.1.Delays late.1 → streams.2.Delays late.2 →
      written block late = written block streams :=
  ⟨emits_writeBlock hlength, fun _ _ => written_of_delays hlength⟩

/-- A record with a payload of three bytes. -/
def threeBytes : RawBlock := ⟨List.replicate recordSize 0, [1, 2, 3]⟩

/-- Streams of which the second one accepts one byte and then nothing more. -/
def stuck : Script × Script := ({}, { writes := [.accept 1, .accept 0] })

def stuckLate : Script × Script :=
  ({ writes := [.accept 100, .fault (.system .interrupted)] },
    { writes := [.fault (.kind .interrupted), .accept 1, .accept 0] })

theorem writeBlock_emits_stuck :
    ((ofPair .output).writeBlock threeBytes stuck).1 = .error .inputOutput ∧
      written threeBytes stuckLate = written threeBytes stuck ∧
      (written threeBytes stuck).2 = ⟨threeBytes.control, [1]⟩ := by
  have hlength : recordSize ≤ threeBytes.control.length := by decide +kernel
  have hfirst : firstFailure threeBytes stuck = some (.kind .writeZero) := by decide +kernel
  obtain ⟨hemits, hdelays⟩ := writeBlock_emits hlength
  have hcontrol : stuck.1.Delays stuckLate.1 := ⟨.of_nil (by decide), rfl, rfl⟩
  have hdata : stuck.2.Delays stuckLate.2 :=
    ⟨.interrupted rfl (.entry _ (.entry _ .nil)), rfl, rfl⟩
  have houtcome := (hemits stuck).outcome_eq
  rw [hfirst] at houtcome
  exact ⟨houtcome, hdelays stuck stuckLate hcontrol hdata, by decide +kernel⟩

end Lane

/-! ### One stream for both -/

namespace Lens

variable {σ : Type}

/-- The stream that is the whole state. -/
def whole : Lens σ σ := ⟨id, fun stream _ => stream⟩

theorem deliver_whole [ByteStream σ] (bs : Bytes) (s : σ) :
    whole.deliver bs s =
      ((ByteStream.deliver bs s).1.mapError Fault.errno, (ByteStream.deliver bs s).2) :=
  deliver_eq (fun _ _ => rfl) (fun _ _ _ => rfl) bs s

end Lens

/-- Where both ends are one stream, the order shows: it accepts a front of the record with the payload
behind it. -/
theorem Lane.accepted_whole {block : RawBlock} (hlength : recordSize ≤ block.control.length)
    (s : Script) :
    ∃ front, front <+: block.control ++ block.data ∧
      ((⟨.output, .whole, .whole⟩ : Lane Script Script).writeBlock block s).2.accepted =
        s.accepted ++ front := by
  obtain ⟨writes, flushes, hcontrol⟩ := Script.deliver_eq block.control s
  rw [writeBlock_of_output rfl hlength, Effect.bind_apply, Lens.deliver_whole, hcontrol]
  cases hfailure : s.failure block.control.length with
  | some fault => exact ⟨_, (List.take_prefix _ _).trans (List.prefix_append _ _), rfl⟩
  | none =>
      let next : Script := { s with writes, flushes, accepted := s.accepted ++ block.control }
      obtain ⟨writes', flushes', hdata⟩ := Script.deliver_eq block.data next
      have hfront : block.control ++ block.data.take (next.amount block.data.length) <+:
          block.control ++ block.data :=
        (List.prefix_append_right_inj _).mpr (List.take_prefix _ _)
      refine ⟨_, hfront, ?_⟩
      rw [(Script.failure_eq_none_iff.mp hfailure).1]
      show (Lens.deliver (.whole : Lens Script Script) block.data next).2.accepted = _
      rw [Lens.deliver_whole, hdata]
      exact List.append_assoc _ _ _

end DaqBus
