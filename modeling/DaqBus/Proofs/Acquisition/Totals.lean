import DaqBus.Acquisition
import Mathlib.Algebra.BigOperators.Group.Finset.Piecewise
import Mathlib.Algebra.BigOperators.Ring.Finset
import Mathlib.Algebra.Order.BigOperators.Group.Finset

/-!
# What a run has counted

A run remembers the last sequence number of every channel, and that is enough: what the next number
adds to the counters depends on nothing else. So the counters stand for sums over the channels, each over
the numbers of one channel alone, however the channels interleave. Where no number ever goes back, the
blocks that came and those that are missing fill the whole range from the first number to the last.

The counters show these sums as long as all of them fit.
-/

namespace DaqBus

open Finset

variable {τ : Type}

/-! ### The numbers of one channel -/

def sequences (calls : List (Block × Nat)) (channel : Nat) : List UInt32 :=
  (calls.filter fun call => call.2 = channel).map fun call => call.1.header.sequence

/-- Each number with the one after it. -/
def successions (numbers : List UInt32) : List (UInt32 × UInt32) := numbers.zip numbers.tail

/-- How often a number is not above the one before it. -/
def resets (numbers : List UInt32) : Nat :=
  (successions numbers).countP fun pair => pair.2 ≤ pair.1

def skipped (pair : UInt32 × UInt32) : Nat :=
  if pair.1 < pair.2 then pair.2.toNat - pair.1.toNat - 1 else 0

/-- How many numbers are left out where the next one is above. -/
def missing (numbers : List UInt32) : Nat := ((successions numbers).map skipped).sum

/-- How many numbers there are from the first to the last. -/
def span : List UInt32 → Nat
  | [] => 0
  | first :: rest => (rest.getLastD first).toNat - first.toNat + 1

theorem sequences_concat (calls : List (Block × Nat)) (block : Block) (index channel : Nat) :
    sequences (calls ++ [(block, index)]) channel =
      sequences calls channel ++ if channel = index then [block.header.sequence] else [] := by
  rw [sequences, List.filter_append, List.map_append]
  by_cases h : channel = index
  · rw [if_pos h, List.filter_cons_of_pos (by simp [h])]
    rfl
  · rw [if_neg h, List.filter_cons_of_neg (by simpa using Ne.symm h)]
    rfl

theorem successions_concat (numbers : List UInt32) (next : UInt32) :
    successions (numbers ++ [next]) =
      successions numbers ++ (numbers.getLast?.map fun last => (last, next)).toList := by
  induction numbers with
  | nil => rfl
  | cons first rest ih =>
      cases rest with
      | nil => rfl
      | cons second rest =>
          show (first, second) :: successions (second :: rest ++ [next]) = _
          rw [ih, List.getLast?_cons_cons]
          rfl

namespace Run

theorem toNat_gap {previous next : UInt32} (h : 1 < next - previous) (habove : previous < next) :
    (next - previous - 1).toNat = next.toNat - previous.toNat - 1 := by
  rw [UInt32.toNat_sub_of_le _ _ (UInt32.le_of_lt h),
    UInt32.toNat_sub_of_le _ _ (UInt32.le_of_lt habove)]
  rfl

theorem resets_concat (channel : Nat) (numbers : List UInt32) (next : UInt32) :
    resets (numbers ++ [next]) =
      resets numbers + (sequenceStep channel numbers.getLast? next).2.sequenceResets := by
  rw [resets, successions_concat, List.countP_append]
  cases numbers.getLast? with
  | none => rfl
  | some last =>
      by_cases hreset : next ≤ last
      · simp [sequenceStep, resets, hreset]
      · by_cases hgap : 1 < next - last
        · simp [sequenceStep, resets, hreset, hgap]
        · simp [sequenceStep, resets, hreset, hgap]

theorem missing_concat (channel : Nat) (numbers : List UInt32) (next : UInt32) :
    missing (numbers ++ [next]) =
      missing numbers + (sequenceStep channel numbers.getLast? next).2.sequenceGaps := by
  rw [missing, successions_concat, List.map_append, List.sum_append]
  cases numbers.getLast? with
  | none => rfl
  | some last =>
      show missing numbers + (skipped (last, next) + 0) = _
      rw [Nat.add_zero, skipped]
      by_cases hreset : next ≤ last
      · rw [if_neg (UInt32.not_lt.mpr hreset)]
        simp [sequenceStep, hreset]
      have habove : last < next := UInt32.not_le.mp hreset
      rw [if_pos habove]
      by_cases hgap : 1 < next - last
      · rw [← toNat_gap hgap habove]
        simp [sequenceStep, hreset, hgap]
      · have hdifference : (next - last).toNat = next.toNat - last.toNat :=
          UInt32.toNat_sub_of_le next last (UInt32.le_of_lt habove)
        have hnone : (next - last).toNat ≤ 1 := UInt32.not_lt.mp hgap
        have hstep : (sequenceStep channel (some last) next).2.sequenceGaps = 0 := by
          simp [sequenceStep, hreset, hgap]
        rw [hstep, ← hdifference]
        omega

theorem sweeps_sequenceStep (channel : Nat) (previous : Option UInt32) (next : UInt32) :
    (sequenceStep channel previous next).2.sweeps = 0 := by
  unfold sequenceStep
  split
  · rfl
  · split
    · rfl
    · split <;> rfl

theorem length_alarmStep (channel : Nat) (header : Control.Header) :
    (alarmStep channel header).length = if header.busAlarms = 0 then 0 else 1 := by
  unfold alarmStep
  by_cases halarms : header.busAlarms = 0
  · rw [if_pos halarms, if_pos halarms]
    rfl
  · rw [if_neg halarms, if_neg halarms]
    rfl

end Run

/-! ### Amounts and counters -/

namespace RunTotals

variable {totals more : RunTotals}

instance : Add RunTotals where
  add totals more := {
    sweeps := totals.sweeps + more.sweeps
    blocks := totals.blocks + more.blocks
    samples := totals.samples + more.samples
    sequenceGaps := totals.sequenceGaps + more.sequenceGaps
    sequenceResets := totals.sequenceResets + more.sequenceResets
    alarmedBlocks := totals.alarmedBlocks + more.alarmedBlocks }

/-- Every amount fits in a counter. -/
structure Fits (totals : RunTotals) : Prop where
  sweeps : totals.sweeps < UInt64.size
  blocks : totals.blocks < UInt64.size
  samples : totals.samples < UInt64.size
  sequenceGaps : totals.sequenceGaps < UInt64.size
  sequenceResets : totals.sequenceResets < UInt64.size
  alarmedBlocks : totals.alarmedBlocks < UInt64.size

/-- The counters that stand for the amounts, each modulo `2 ^ 64`. -/
def counters (totals : RunTotals) : RunCounters where
  sweeps := .ofNat totals.sweeps
  blocks := .ofNat totals.blocks
  samples := .ofNat totals.samples
  sequenceGaps := .ofNat totals.sequenceGaps
  sequenceResets := .ofNat totals.sequenceResets
  alarmedBlocks := .ofNat totals.alarmedBlocks

theorem plus_counters (totals more : RunTotals) :
    totals.counters.plus more = (totals + more).counters := by
  simp only [counters, RunCounters.plus, ← UInt64.ofNat_add]
  rfl

theorem Fits.of_add (h : (totals + more).Fits) : totals.Fits where
  sweeps := Nat.lt_of_le_of_lt (Nat.le_add_right _ _) h.sweeps
  blocks := Nat.lt_of_le_of_lt (Nat.le_add_right _ _) h.blocks
  samples := Nat.lt_of_le_of_lt (Nat.le_add_right _ _) h.samples
  sequenceGaps := Nat.lt_of_le_of_lt (Nat.le_add_right _ _) h.sequenceGaps
  sequenceResets := Nat.lt_of_le_of_lt (Nat.le_add_right _ _) h.sequenceResets
  alarmedBlocks := Nat.lt_of_le_of_lt (Nat.le_add_right _ _) h.alarmedBlocks

end RunTotals

/-- The counters are the amounts. -/
structure RunCounters.Shows (counters : RunCounters) (totals : RunTotals) : Prop where
  sweeps : counters.sweeps.toNat = totals.sweeps
  blocks : counters.blocks.toNat = totals.blocks
  samples : counters.samples.toNat = totals.samples
  sequenceGaps : counters.sequenceGaps.toNat = totals.sequenceGaps
  sequenceResets : counters.sequenceResets.toNat = totals.sequenceResets
  alarmedBlocks : counters.alarmedBlocks.toNat = totals.alarmedBlocks

namespace RunTotals

variable {totals more : RunTotals}

theorem Fits.shows (h : totals.Fits) : totals.counters.Shows totals where
  sweeps := UInt64.toNat_ofNat_of_lt h.sweeps
  blocks := UInt64.toNat_ofNat_of_lt h.blocks
  samples := UInt64.toNat_ofNat_of_lt h.samples
  sequenceGaps := UInt64.toNat_ofNat_of_lt h.sequenceGaps
  sequenceResets := UInt64.toNat_ofNat_of_lt h.sequenceResets
  alarmedBlocks := UInt64.toNat_ofNat_of_lt h.alarmedBlocks

theorem Fits.hasRoomFor_iff (h : totals.Fits) :
    totals.counters.hasRoomFor more = true ↔ (totals + more).Fits := by
  have hshows := h.shows
  rw [RunCounters.hasRoomFor, hshows.sweeps, hshows.blocks, hshows.samples, hshows.sequenceGaps,
    hshows.sequenceResets, hshows.alarmedBlocks]
  simp only [Bool.and_eq_true, decide_eq_true_eq]
  constructor
  · rintro ⟨⟨⟨⟨⟨hsweeps, hblocks⟩, hsamples⟩, hgaps⟩, hresets⟩, halarmed⟩
    exact ⟨hsweeps, hblocks, hsamples, hgaps, hresets, halarmed⟩
  · intro hfits
    exact ⟨⟨⟨⟨⟨hfits.sweeps, hfits.blocks⟩, hfits.samples⟩, hfits.sequenceGaps⟩,
      hfits.sequenceResets⟩, hfits.alarmedBlocks⟩

end RunTotals

/-- The counters of a run stand for amounts, and a sum has not fitted exactly if one of them does
not. -/
structure Run.Counts (run : Run τ) (totals : RunTotals) : Prop where
  counters_eq : run.counters = totals.counters
  overflowed_iff : run.overflowed = false ↔ totals.Fits

namespace Run.Counts

variable {run : Run τ} {totals : RunTotals}

theorem count (h : run.Counts totals) (more : RunTotals) : (run.count more).Counts (totals + more) where
  counters_eq := by
    show run.counters.plus more = _
    rw [h.counters_eq, RunTotals.plus_counters]
  overflowed_iff := by
    show (run.overflowed || !run.counters.hasRoomFor more) = false ↔ _
    rw [Bool.or_eq_false_iff, Bool.not_eq_false', h.overflowed_iff, h.counters_eq]
    constructor
    · rintro ⟨hfits, hroom⟩
      exact hfits.hasRoomFor_iff.mp hroom
    · intro hfits
      exact ⟨hfits.of_add, hfits.of_add.hasRoomFor_iff.mpr hfits⟩

/-- Without an overflow the counters are exact. -/
theorem shows (h : run.Counts totals) (hfits : run.overflowed = false) :
    run.counters.Shows totals := by
  rw [h.counters_eq]
  exact (h.overflowed_iff.mp hfits).shows

end Run.Counts

/-! ### The amounts of a run -/

namespace RunTotals

/-- The amounts of a run that has made some calls in completed sweeps, or in one more. -/
def ofCalls (channels sweeps : Nat) (calls : List (Block × Nat)) : RunTotals where
  sweeps := sweeps
  blocks := calls.length
  samples := (calls.map fun call => call.1.samples.length).sum
  sequenceGaps := ∑ channel ∈ range channels, missing (sequences calls channel)
  sequenceResets := ∑ channel ∈ range channels, resets (sequences calls channel)
  alarmedBlocks := calls.countP fun call => call.1.header.busAlarms ≠ 0

variable {index channels : Nat}

/-- What a call adds to a sum over the channels is what it adds on its own channel. -/
theorem sum_concat (weight : List UInt32 → Nat) (calls : List (Block × Nat)) (block : Block)
    {added : Nat} (hindex : index < channels)
    (hadded : weight (sequences calls index ++ [block.header.sequence]) =
      weight (sequences calls index) + added) :
    ∑ channel ∈ range channels, weight (sequences (calls ++ [(block, index)]) channel) =
      (∑ channel ∈ range channels, weight (sequences calls channel)) + added := by
  calc ∑ channel ∈ range channels, weight (sequences (calls ++ [(block, index)]) channel)
      = ∑ channel ∈ range channels,
          (weight (sequences calls channel) + if channel = index then added else 0) := by
        apply Finset.sum_congr rfl
        intro channel hmem
        rw [sequences_concat]
        by_cases h : channel = index
        · rw [if_pos h, if_pos h, h, hadded]
        · rw [if_neg h, if_neg h, List.append_nil, Nat.add_zero]
    _ = (∑ channel ∈ range channels, weight (sequences calls channel)) + added := by
        rw [Finset.sum_add_distrib, Finset.sum_ite_eq', if_pos (mem_range.mpr hindex)]

/-- What one more call adds. -/
theorem ofCalls_concat (hindex : index < channels) (sweeps : Nat) (calls : List (Block × Nat))
    (block : Block) :
    ofCalls channels sweeps (calls ++ [(block, index)]) =
      ofCalls channels sweeps calls +
        { (Run.sequenceStep index (sequences calls index).getLast? block.header.sequence).2 with
          blocks := 1
          samples := block.samples.length
          alarmedBlocks := (Run.alarmStep index block.header).length } := by
  have hgaps := sum_concat missing calls block hindex (Run.missing_concat index _ _)
  have hresets := sum_concat resets calls block hindex (Run.resets_concat index _ _)
  have halarmed : (calls ++ [(block, index)]).countP (fun call => call.1.header.busAlarms ≠ 0) =
      calls.countP (fun call => call.1.header.busAlarms ≠ 0) +
        (Run.alarmStep index block.header).length := by
    rw [List.countP_append, Run.length_alarmStep, List.countP_singleton]
    by_cases h : block.header.busAlarms = 0 <;> simp [h]
  rw [ofCalls, hgaps, hresets, halarmed, List.length_append, List.map_append, List.sum_append]
  show _ = RunTotals.mk _ _ _ _ _ _
  rw [Run.sweeps_sequenceStep]
  rfl

theorem ofCalls_nil (channels : Nat) : ofCalls channels 0 [] = {} := by
  have hzero (weight : List UInt32 → Nat) (hnil : weight [] = 0) :
      ∑ channel ∈ range channels, weight (sequences [] channel) = 0 :=
    Finset.sum_eq_zero fun channel _ => hnil
  rw [ofCalls, hzero missing rfl, hzero resets rfl]
  rfl

end RunTotals

end DaqBus
