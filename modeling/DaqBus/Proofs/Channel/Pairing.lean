import DaqBus.Proofs.Block.RoundTrip
import DaqBus.Proofs.Channel.Ledger

/-!
# Which payload belongs to which record

A record that is refused for its sample size takes none of its payload along. So a delivered block
carries the payload that was pushed with its record as long as the records refused so far came without
payload, and from then on it is off by what they left behind.
-/

namespace DaqBus

open Control

namespace Channel

variable {channel : Channel} {bus : Bus MemoryBus} {ledger : Ledger}

theorem readBlock_run (hidle : channel.Idle bus) (hinput : channel.direction = .input)
    {history : List Step} (hwhole : (Ledger.ofHistory history).IsWhole) :
    (channel.readBlock (channel.run history bus)).1 =
      channel.readOutcome (Ledger.ofHistory history).next :=
  (hidle.follows.run hinput hwhole).fst_readBlock hinput hwhole

theorem Ledger.next_eq_ok_iff {found : RawBlock} :
    ledger.next = .ok found ↔ ∃ pair, ledger.pushed[ledger.read]? = some pair ∧ pair.isUsable ∧
      found = ⟨pair.control, (ledger.payloads.drop ledger.taken).take pair.data.length⟩ := by
  rw [next]
  cases hpair : ledger.pushed[ledger.read]? with
  | none =>
      constructor
      · intro h
        cases h
      · rintro ⟨pair, h, -⟩
        cases h
  | some pair =>
      by_cases husable : pair.isUsable
      · simp only [husable, if_true, Except.ok.injEq, Option.some.injEq]
        constructor
        · intro h
          exact ⟨pair, rfl, husable, h.symm⟩
        · rintro ⟨_, rfl, -, h⟩
          exact h.symm
      · simp only [husable, Bool.false_eq_true, if_false, Option.some.injEq]
        constructor
        · intro h
          cases h
        · rintro ⟨_, rfl, h, -⟩
          exact absurd h husable

theorem Ledger.payload_next {pair : RawBlock} (hpair : ledger.pushed[ledger.read]? = some pair)
    (hrefused : ∀ earlier ∈ ledger.pushed.take ledger.read,
      earlier.isUsable = false → earlier.data = []) :
    (ledger.payloads.drop ledger.taken).take pair.data.length = pair.data := by
  have htaken : ledger.taken = ((ledger.pushed.take ledger.read).flatMap RawBlock.data).length :=
    RawBlock.takenLength_eq hrefused
  obtain ⟨hread, rfl⟩ := List.getElem?_eq_some_iff.mp hpair
  have hsplit : ledger.payloads = (ledger.pushed.take ledger.read).flatMap RawBlock.data ++
      (ledger.pushed[ledger.read].data ++
        (ledger.pushed.drop (ledger.read + 1)).flatMap RawBlock.data) := by
    rw [← List.flatMap_cons, ← List.drop_eq_getElem_cons hread, ← List.flatMap_append,
      List.take_append_drop]
    rfl
  rw [hsplit, htaken, List.drop_left, List.take_left]

theorem Ledger.length_payload_next {pair : RawBlock}
    (hpair : ledger.pushed[ledger.read]? = some pair) (husable : pair.isUsable) :
    ((ledger.payloads.drop ledger.taken).take pair.data.length).length = pair.data.length := by
  obtain ⟨hread, rfl⟩ := List.getElem?_eq_some_iff.mp hpair
  -- The record after this one finds the payload of this one taken.
  have hafter := RawBlock.takenLength_take_le ledger.pushed (ledger.read + 1)
  rw [RawBlock.takenLength_take_succ hread, if_pos husable] at hafter
  have hlength : ledger.taken + ledger.pushed[ledger.read].data.length ≤ ledger.payloads.length :=
    hafter
  rw [List.length_take, List.length_drop]
  omega

/-- A usable record is delivered whatever was refused before: no read finds its payload short. -/
theorem readBlock_run_of_usable (hidle : channel.Idle bus) (hinput : channel.direction = .input)
    {history : List Step} (hwhole : (Ledger.ofHistory history).IsWhole) {pair : RawBlock}
    (hpair : (Ledger.ofHistory history).pushed[(Ledger.ofHistory history).read]? = some pair)
    (husable : pair.isUsable) :
    ∃ block, (channel.readBlock (channel.run history bus)).1 = .ok block := by
  have hpairWhole := hwhole pair (List.mem_of_getElem? hpair)
  have hheader := Header.decode_of_length (Nat.le_of_eq hpairWhole.length_control.symm)
  have hsize : isSampleSize (Cursor.header pair.control).1.sampleSize := by
    rw [← Lane.sampleSize_of_decode hheader]
    exact husable
  have hlength : (Cursor.header pair.control).1.payloadLength ≤
      (((Ledger.ofHistory history).payloads.drop (Ledger.ofHistory history).taken).take
        pair.data.length).length := by
    rw [Ledger.length_payload_next hpair husable, ← Lane.announced_of_decode hheader]
    exact Nat.le_of_eq hpairWhole.length_data.symm
  obtain ⟨samples, hsamples⟩ := Samples.decode_of_sampleSize hsize hlength
  refine ⟨⟨(Cursor.header pair.control).1, samples⟩, ?_⟩
  rw [readBlock_run hidle hinput hwhole, readOutcome_eq_ok_iff]
  exact ⟨_, Ledger.next_eq_ok_iff.mpr ⟨pair, hpair, husable, rfl⟩,
    Block.decode_eq_ok_iff.mpr ⟨hheader, hsamples⟩⟩

/-- **Which payload a delivered block carries.** The header is that of the next pair in the order of
the pushes, and the samples come from the payload stream behind the payloads of the accepted records:
the payload of the same pair, unless a record refused before came with payload. -/
theorem readBlock_run_pairs (hidle : channel.Idle bus) (hinput : channel.direction = .input)
    (history : List Step) (hwhole : (Ledger.ofHistory history).IsWhole) {block : Block}
    (hread : (channel.readBlock (channel.run history bus)).1 = .ok block) :
    ∃ pair, (Ledger.ofHistory history).pushed[(Ledger.ofHistory history).read]? = some pair ∧
      Header.decode pair.control = .ok block.header ∧
      Samples.decode block.header (((Ledger.ofHistory history).payloads.drop
        (Ledger.ofHistory history).taken).take pair.data.length) = .ok block.samples ∧
      ((∀ earlier ∈ (Ledger.ofHistory history).pushed.take (Ledger.ofHistory history).read,
          earlier.isUsable = false → earlier.data = []) →
        Samples.decode block.header pair.data = .ok block.samples) := by
  rw [readBlock_run hidle hinput hwhole, readOutcome_eq_ok_iff] at hread
  obtain ⟨found, hnext, hdecode⟩ := hread
  obtain ⟨pair, hpair, -, rfl⟩ := Ledger.next_eq_ok_iff.mp hnext
  obtain ⟨hheader, hsamples⟩ := Block.decode_eq_ok_iff.mp hdecode
  refine ⟨pair, hpair, hheader, hsamples, ?_⟩
  intro hrefused
  rwa [Ledger.payload_next hpair hrefused] at hsamples

/-! ### Refused payload -/

def single : Header := { sampleCount := 1, sampleSize := 1, extensions := [{}] }

def refusedEmpty : RawBlock := ⟨({ sampleSize := 3 } : Header).encode, []⟩

def refused : RawBlock := ⟨({ sampleCount := 1, sampleSize := 3 } : Header).encode, [1, 2, 3]⟩

def behind (pair : RawBlock) : List Step := [.pushRaw pair, .pushBlock single [9], .read]

theorem isWhole_behind {pair : RawBlock} (hpair : pair.IsWhole) :
    (Ledger.ofHistory (behind pair)).IsWhole := by
  intro other hmem
  rcases List.mem_cons.mp hmem with rfl | hmem
  · exact hpair
  · rw [List.mem_singleton.mp hmem]
    exact ⟨by decide +kernel, by decide +kernel⟩

theorem isWhole_refusedEmpty : refusedEmpty.IsWhole := ⟨by decide +kernel, by decide +kernel⟩

theorem isWhole_refused : refused.IsWhole := ⟨by decide +kernel, by decide +kernel⟩

theorem readBlock_run_refusedEmpty :
    (benchInput.readBlock (benchInput.run (behind refusedEmpty) bench)).1 = .ok ⟨single, .u8 [9]⟩ := by
  rw [readBlock_run idle_benchInput rfl (isWhole_behind isWhole_refusedEmpty),
    readOutcome_eq_ok_iff]
  refine ⟨⟨single.encode, [9]⟩, ?_, ?_⟩
  · rw [Ledger.next_eq_ok_iff]
    exact ⟨⟨single.encode, [9]⟩, rfl, by decide +kernel, by decide +kernel⟩
  · rw [Block.decode_eq_ok_iff]
    exact ⟨Header.decode_encode single, rfl⟩

theorem readBlock_run_pairs_refusedEmpty :
    ∃ pair ∈ (Ledger.ofHistory (behind refusedEmpty)).pushed,
      Header.decode pair.control = .ok single ∧ Samples.decode single pair.data = .ok (.u8 [9]) := by
  obtain ⟨pair, hpair, hheader, -, hsamples⟩ := readBlock_run_pairs idle_benchInput rfl
    (behind refusedEmpty) (isWhole_behind isWhole_refusedEmpty)
    readBlock_run_refusedEmpty
  refine ⟨pair, List.mem_of_getElem? hpair, hheader, hsamples ?_⟩
  intro earlier hmem hunusable
  rw [List.mem_singleton.mp hmem]
  rfl

/-- Refused payload stays in front of the payload pushed after it: a good record is delivered with
bytes that were pushed with another one. -/
theorem readBlock_run_refused :
    benchInput.Idle bench ∧ benchInput.direction = .input ∧
      (Ledger.ofHistory (behind refused)).IsWhole ∧
      (benchInput.readBlock (benchInput.run (behind refused) bench)).1 = .ok ⟨single, .u8 [1]⟩ ∧
      ¬ ∃ pair ∈ (Ledger.ofHistory (behind refused)).pushed,
        Header.decode pair.control = .ok single ∧
        Samples.decode single pair.data = .ok (.u8 [1]) := by
  have hwhole := isWhole_behind isWhole_refused
  refine ⟨idle_benchInput, rfl, hwhole, ?_, ?_⟩
  · rw [readBlock_run idle_benchInput rfl hwhole, readOutcome_eq_ok_iff]
    refine ⟨⟨single.encode, [1]⟩, ?_, ?_⟩
    · rw [Ledger.next_eq_ok_iff]
      exact ⟨⟨single.encode, [9]⟩, rfl, by decide +kernel, by decide +kernel⟩
    · rw [Block.decode_eq_ok_iff]
      exact ⟨Header.decode_encode single, rfl⟩
  · rintro ⟨pair, hmem, hheader, hsamples⟩
    rcases List.mem_cons.mp hmem with rfl | hmem
    · rw [refused, Header.decode_encode] at hheader
      exact absurd (congrArg Header.sampleSize (Except.ok.inj hheader)) (by decide)
    · rw [List.mem_singleton.mp hmem] at hsamples
      cases hsamples

end Channel

end DaqBus
