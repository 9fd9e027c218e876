import DaqBus.Proofs.Channel.Connected

/-!
# The ledger of a channel

The records and the payloads of a channel travel in two queues without boundaries. Over any history
of pushes and reads the two queues stand at offsets that the pushed pairs alone determine: whole
records on the one side, and on the other the payloads of the records that were accepted. The ledger
of a history keeps the pairs and the number of records read, and the invariant is that the queues
follow it: every step of a channel preserves it, so every run does.
-/

namespace DaqBus

open Control

namespace RawBlock

/-- The record has the fixed size, and the payload is as long as the record announces. -/
structure IsWhole (pair : RawBlock) : Prop where
  length_control : pair.control.length = recordSize
  length_data : pair.data.length = announced pair.control

def isUsable (pair : RawBlock) : Bool := isSampleSize (Lane.sampleSize pair.control)

/-- What the accepted ones of some records take from the payload queue. -/
def takenLength (pairs : List RawBlock) : Nat :=
  ((pairs.filter isUsable).flatMap data).length

theorem takenLength_append_singleton (pairs : List RawBlock) (pair : RawBlock) :
    takenLength (pairs ++ [pair]) =
      takenLength pairs + if pair.isUsable then pair.data.length else 0 := by
  rw [takenLength, takenLength, List.filter_append, List.flatMap_append, List.length_append]
  by_cases husable : pair.isUsable
  · simp [husable]
  · simp [husable]

theorem takenLength_take_succ {pairs : List RawBlock} {i : Nat} (hi : i < pairs.length) :
    takenLength (pairs.take (i + 1)) =
      takenLength (pairs.take i) + if pairs[i].isUsable then pairs[i].data.length else 0 := by
  rw [List.take_succ_eq_append_getElem hi, takenLength_append_singleton]

theorem takenLength_le (pairs : List RawBlock) :
    takenLength pairs ≤ (pairs.flatMap data).length := by
  induction pairs with
  | nil => exact Nat.le_refl 0
  | cons pair pairs ih =>
      rw [takenLength] at ih ⊢
      rw [List.flatMap_cons, List.length_append]
      by_cases husable : pair.isUsable
      · rw [List.filter_cons_of_pos husable, List.flatMap_cons, List.length_append]
        omega
      · rw [List.filter_cons_of_neg husable]
        omega

theorem takenLength_take_le (pairs : List RawBlock) (i : Nat) :
    takenLength (pairs.take i) ≤ (pairs.flatMap data).length :=
  calc takenLength (pairs.take i)
      ≤ ((pairs.take i).flatMap data).length := takenLength_le _
    _ ≤ ((pairs.take i).flatMap data).length + ((pairs.drop i).flatMap data).length :=
        Nat.le_add_right _ _
    _ = (pairs.flatMap data).length := by
        rw [← List.length_append, ← List.flatMap_append, List.take_append_drop]

/-- Records that are refused without payload leave no gap. -/
theorem takenLength_eq {pairs : List RawBlock}
    (hrefused : ∀ pair ∈ pairs, pair.isUsable = false → pair.data = []) :
    takenLength pairs = (pairs.flatMap data).length := by
  induction pairs with
  | nil => rfl
  | cons pair pairs ih =>
      have ih := ih fun other hmem => hrefused other (List.mem_cons_of_mem _ hmem)
      rw [takenLength] at ih ⊢
      by_cases husable : pair.isUsable
      · rw [List.filter_cons_of_pos husable, List.flatMap_cons, List.length_append, ih,
          List.flatMap_cons, List.length_append]
      · have hempty := hrefused pair List.mem_cons_self (by simpa using husable)
        rw [List.filter_cons_of_neg husable, ih, List.flatMap_cons, hempty, List.nil_append]

theorem first_of_whole {pair : RawBlock} (hwhole : pair.IsWhole) (later data : Bytes) :
    (⟨pair.control ++ later, data⟩ : RawBlock).first =
      if pair.isUsable then
        (.ok ⟨pair.control, data.take pair.data.length⟩, ⟨later, data.drop pair.data.length⟩)
      else (.error .controlWrong, ⟨later, data⟩) := by
  have hcontrol : (pair.control ++ later).take recordSize = pair.control :=
    List.take_left' hwhole.length_control
  have hlater : (pair.control ++ later).drop recordSize = later :=
    List.drop_left' hwhole.length_control
  by_cases husable : pair.isUsable
  · rw [first_of_usable hcontrol hwhole.length_control husable, if_pos husable,
      hwhole.length_data, hlater]
  · rw [first_of_unusable (by rw [hcontrol]; exact fun h => husable h.2), if_neg husable, hlater]

end RawBlock

namespace Channel

variable {channel : Channel} {bus : Bus MemoryBus}

/-! ### Histories -/

inductive Step
  | pushBlock (header : Header) (payload : Bytes)
  | pushRaw (block : RawBlock)
  | read

def step (channel : Channel) (bus : Bus MemoryBus) : Step → Bus MemoryBus
  | .pushBlock header payload => channel.push ⟨header.encode, payload⟩ bus
  | .pushRaw block => channel.push block bus
  | .read => (channel.readBlock bus).2

def run (channel : Channel) (history : List Step) (bus : Bus MemoryBus) : Bus MemoryBus :=
  history.foldl channel.step bus

/-- What was pushed in a history, and how many of the records have been read, accepted or not. -/
structure Ledger where
  pushed : List RawBlock := []
  read : Nat := 0

namespace Ledger

def push (ledger : Ledger) (pair : RawBlock) : Ledger :=
  { ledger with pushed := ledger.pushed ++ [pair] }

/-- A read of an empty channel reads no record. -/
def step (ledger : Ledger) : Step → Ledger
  | .pushBlock header payload => ledger.push ⟨header.encode, payload⟩
  | .pushRaw block => ledger.push block
  | .read => { ledger with read := min (ledger.read + 1) ledger.pushed.length }

def ofHistory (history : List Step) : Ledger := history.foldl step {}

def payloads (ledger : Ledger) : Bytes := ledger.pushed.flatMap RawBlock.data

/-- How many payload bytes the records read so far have taken. -/
def taken (ledger : Ledger) : Nat := RawBlock.takenLength (ledger.pushed.take ledger.read)

def next (ledger : Ledger) : Except Errno RawBlock :=
  match ledger.pushed[ledger.read]? with
  | some pair =>
    if pair.isUsable then
      .ok ⟨pair.control, (ledger.payloads.drop ledger.taken).take pair.data.length⟩
    else .error .controlWrong
  | none => .error .controlWrong

def IsWhole (ledger : Ledger) : Prop := ∀ pair ∈ ledger.pushed, pair.IsWhole

variable {ledger : Ledger}

theorem taken_le (ledger : Ledger) : ledger.taken ≤ ledger.payloads.length :=
  RawBlock.takenLength_take_le ledger.pushed ledger.read

theorem taken_push (hread : ledger.read ≤ ledger.pushed.length) (pair : RawBlock) :
    (ledger.push pair).taken = ledger.taken := by
  rw [taken, taken, push, List.take_append_of_le_length hread]

theorem payloads_push (ledger : Ledger) (pair : RawBlock) :
    (ledger.push pair).payloads = ledger.payloads ++ pair.data := by
  rw [payloads, push, List.flatMap_append, List.flatMap_singleton]
  rfl

theorem IsWhole.of_step {next : Step} (h : (ledger.step next).IsWhole) : ledger.IsWhole := by
  intro pair hmem
  cases next with
  | pushBlock header payload => exact h pair (List.mem_append_left _ hmem)
  | pushRaw block => exact h pair (List.mem_append_left _ hmem)
  | read => exact h pair hmem

end Ledger

/-- The two queues of a channel stand where the ledger says. -/
structure Follows (channel : Channel) (bus : Bus MemoryBus) (ledger : Ledger) : Prop where
  connected : channel.Connected bus
  read_le : ledger.read ≤ ledger.pushed.length
  control : (channel.waiting bus).control =
    (ledger.pushed.drop ledger.read).flatMap RawBlock.control
  data : (channel.waiting bus).data = ledger.payloads.drop ledger.taken

variable {ledger : Ledger}

theorem Idle.follows (h : channel.Idle bus) : channel.Follows bus {} := by
  refine ⟨h.connected, Nat.le_refl 0, ?_, ?_⟩
  · rw [h.waiting]
    rfl
  · rw [h.waiting]
    rfl

theorem Follows.push (h : channel.Follows bus ledger) (pair : RawBlock) :
    channel.Follows (channel.push pair bus) (ledger.push pair) := by
  rw [push_eq h.connected]
  refine ⟨h.connected.setWaiting channel _, ?_, ?_, ?_⟩
  · rw [Ledger.push, List.length_append]
    exact Nat.le_add_right_of_le h.read_le
  · rw [waiting_setWaiting h.connected, RawBlock.control_append, h.control, Ledger.push,
      List.drop_append_of_le_length h.read_le, List.flatMap_append, List.flatMap_singleton]
  · rw [waiting_setWaiting h.connected, RawBlock.data_append, h.data, Ledger.taken_push h.read_le,
      Ledger.payloads_push, List.drop_append_of_le_length ledger.taken_le]

/-! ### Reads -/

/-- A read finds the next record of the ledger, in front of the payload bytes not yet taken. -/
theorem Follows.first_of_pair (h : channel.Follows bus ledger) (hwhole : ledger.IsWhole)
    (hread : ledger.read < ledger.pushed.length) :
    (channel.waiting bus).first =
      (ledger.next, ⟨(ledger.pushed.drop (ledger.read + 1)).flatMap RawBlock.control,
        ledger.payloads.drop (RawBlock.takenLength (ledger.pushed.take (ledger.read + 1)))⟩) := by
  have hwaiting : channel.waiting bus = ⟨ledger.pushed[ledger.read].control ++
      (ledger.pushed.drop (ledger.read + 1)).flatMap RawBlock.control,
      ledger.payloads.drop ledger.taken⟩ := by
    rw [← List.flatMap_cons, ← List.drop_eq_getElem_cons hread, ← h.control, ← h.data]
  rw [hwaiting, RawBlock.first_of_whole (hwhole _ (List.getElem_mem hread)),
    RawBlock.takenLength_take_succ hread, Ledger.next, List.getElem?_eq_getElem hread]
  by_cases husable : ledger.pushed[ledger.read].isUsable
  · simp only [husable, if_true, List.drop_drop]
    rfl
  · simp only [husable, Bool.false_eq_true, if_false, Nat.add_zero]
    rfl

theorem Follows.first_of_end (h : channel.Follows bus ledger)
    (hread : ledger.pushed.length ≤ ledger.read) :
    (channel.waiting bus).first = (ledger.next, channel.waiting bus) := by
  have hcontrol : (channel.waiting bus).control = [] := by
    rw [h.control, List.drop_of_length_le hread, List.flatMap_nil]
  have hnext : ledger.next = .error .controlWrong := by
    rw [Ledger.next, List.getElem?_eq_none hread]
  have hshort : ¬ (((channel.waiting bus).control.take recordSize).length = recordSize ∧
      isSampleSize (Lane.sampleSize ((channel.waiting bus).control.take recordSize))) := by
    rw [hcontrol]
    decide
  rw [RawBlock.first_of_unusable hshort, hnext, hcontrol, List.drop_nil, ← hcontrol]

theorem Follows.readBlock (h : channel.Follows bus ledger) (hinput : channel.direction = .input)
    (hwhole : ledger.IsWhole) :
    channel.Follows (channel.readBlock bus).2 (ledger.step .read) := by
  have hconnected := h.connected.readBlock hinput
  have hwaiting := waiting_readBlock h.connected hinput
  by_cases hread : ledger.read < ledger.pushed.length
  · have hstep : ledger.step .read = { ledger with read := ledger.read + 1 } := by
      rw [Ledger.step, Nat.min_eq_left hread]
    rw [h.first_of_pair hwhole hread] at hwaiting
    rw [hstep]
    refine ⟨hconnected, hread, ?_, ?_⟩
    · rw [hwaiting]
    · rw [hwaiting]
      rfl
  · -- Nothing waits here, so the read finds nothing and leaves everything.
    have hend := Nat.not_lt.mp hread
    have hstep : ledger.step .read = ledger := by
      rw [Ledger.step, Nat.min_eq_right (Nat.le_succ_of_le hend),
        ← Nat.le_antisymm h.read_le hend]
    rw [h.first_of_end hend] at hwaiting
    rw [hstep]
    refine ⟨hconnected, h.read_le, ?_, ?_⟩
    · rw [hwaiting, h.control]
    · rw [hwaiting, h.data]

theorem Follows.fst_readBlock (h : channel.Follows bus ledger) (hinput : channel.direction = .input)
    (hwhole : ledger.IsWhole) :
    (channel.readBlock bus).1 = channel.readOutcome ledger.next := by
  rw [Channel.fst_readBlock h.connected hinput]
  by_cases hread : ledger.read < ledger.pushed.length
  · rw [h.first_of_pair hwhole hread]
  · rw [h.first_of_end (Nat.not_lt.mp hread)]

/-! ### Runs -/

theorem Follows.step (h : channel.Follows bus ledger) (hinput : channel.direction = .input)
    (hwhole : ledger.IsWhole) (next : Step) :
    channel.Follows (channel.step bus next) (ledger.step next) := by
  cases next with
  | pushBlock header payload => exact h.push _
  | pushRaw block => exact h.push block
  | read => exact h.readBlock hinput hwhole

theorem Ledger.IsWhole.of_steps {history : List Step}
    (h : (history.foldl Ledger.step ledger).IsWhole) : ledger.IsWhole := by
  induction history generalizing ledger with
  | nil => exact h
  | cons next history ih => exact (ih h).of_step

/-- **Runs.** Whatever happens on a channel, its queues stand where the ledger says. -/
theorem Follows.run (h : channel.Follows bus ledger) (hinput : channel.direction = .input)
    {history : List Step} (hwhole : (history.foldl Ledger.step ledger).IsWhole) :
    channel.Follows (channel.run history bus) (history.foldl Ledger.step ledger) := by
  induction history generalizing bus ledger with
  | nil => exact h
  | cons next history ih =>
      -- The pairs pushed so far are among those pushed in the end.
      have hnow : ledger.IsWhole := hwhole.of_steps
      exact ih (h.step hinput hnow next) hwhole

end Channel

end DaqBus
