import DaqBus.Bus.Backend
import DaqBus.Proofs.Stream.Queue

/-!
# Transfers step by step

With the direction of the channel, a read is a read of a record, a look at it and a read of the payload,
and a write is two deliveries, of the record and then of the payload. Where the two streams share
nothing, each of the steps acts on its own stream alone.
-/

namespace DaqBus

open Control ByteStream

/-- The payload bytes that a control record announces, read at their fixed places. -/
def RawBlock.announced (control : Bytes) : Nat :=
  (Lane.sampleCount control).toNat * (Lane.sampleSize control).toNat

/-- Writes all bytes and has them flushed. -/
def ByteStream.deliver {σ : Type} [ByteStream σ] (bs : Bytes) (s : σ) : Except Fault Unit × σ :=
  match writeAll bs s with
  | (.ok (), s') => flush s'
  | (.error fault, s') => (.error fault, s')

namespace Lens

variable {S σ : Type} [ByteStream σ] {lens : Lens S σ}

def deliver (lens : Lens S σ) (bs : Bytes) : StoreM S Unit := do
  lens.writeAll bs
  lens.flush

/-- On a stream that keeps what is put there, a delivery is one operation. -/
theorem deliver_eq (hview : ∀ s state, lens.view (lens.put s state) = s)
    (hput : ∀ s s' state, lens.put s (lens.put s' state) = lens.put s state) (bs : Bytes) (state : S) :
    lens.deliver bs state =
      ((ByteStream.deliver bs (lens.view state)).1.mapError Fault.errno,
        lens.put (ByteStream.deliver bs (lens.view state)).2 state) := by
  rw [ByteStream.deliver]
  rcases hwrite : ByteStream.writeAll bs (lens.view state) with ⟨fault | _, s'⟩
  · have hrun : lens.writeAll bs state = (.error fault.errno, lens.put s' state) := run_of_error hwrite
    exact Effect.bind_of_error hrun
  · have hrun : lens.writeAll bs state = (.ok (), lens.put s' state) := run_of_ok hwrite
    refine (Effect.bind_of_ok hrun).trans ?_
    rw [flush, run_eq, hview, hput]

end Lens

namespace Lane

variable {S σ : Type} [ByteStream σ] {lane : Lane S σ}

theorem readBlock_of_input (hinput : lane.direction = .input) (state : S) :
    lane.readBlock state = match lane.control.readUpTo recordSize state with
      | (.error code, next) => (.error code, next)
      | (.ok control, next) =>
        if control.length = recordSize ∧ isSampleSize (sampleSize control) then
          match lane.data.readUpTo (RawBlock.announced control) next with
          | (.error code, after) => (.error code, after)
          | (.ok data, after) => (.ok ⟨control, data⟩, after)
        else (.error .controlWrong, next) := by
  unfold readBlock
  simp only [hinput, ne_eq, not_true_eq_false, if_false]
  refine (Effect.bind_apply _ _ state).trans ?_
  rcases lane.control.readUpTo recordSize state with ⟨code | control, next⟩
  · rfl
  · dsimp only
    by_cases hlength : control.length = recordSize
    · by_cases hsize : isSampleSize (sampleSize control)
      · rw [if_neg (not_not_intro hlength), if_neg (by simp [hsize]), if_pos ⟨hlength, hsize⟩]
        refine (Effect.bind_apply _ _ next).trans ?_
        unfold RawBlock.announced
        rcases lane.data.readUpTo _ next with ⟨code | data, after⟩ <;> rfl
      · have hrefused : ¬ (control.length = recordSize ∧ isSampleSize (sampleSize control)) :=
          fun h => hsize h.2
        rw [if_neg (not_not_intro hlength), if_pos (by simp [hsize]), if_neg hrefused]
        exact Effect.bind_of_error (Effect.throw_apply _ _)
    · have hrefused : ¬ (control.length = recordSize ∧ isSampleSize (sampleSize control)) :=
        fun h => hlength h.1
      rw [if_pos hlength, if_neg hrefused]
      exact Effect.bind_of_error (Effect.throw_apply _ _)

theorem writeBlock_of_output {block : RawBlock} (houtput : lane.direction = .output)
    (hlength : recordSize ≤ block.control.length) :
    lane.writeBlock block = (do
      lane.control.deliver block.control
      lane.data.deliver block.data) := by
  unfold writeBlock Lens.deliver
  simp only [houtput, ne_eq, not_true_eq_false, if_false, Nat.not_lt.mpr hlength]
  exact (bind_assoc _ _ _).symm

/-! ### Two streams of their own -/

/-- A lane over two streams that share nothing. -/
def ofPair (direction : Direction) : Lane (σ × σ) σ where
  direction
  control := ⟨Prod.fst, fun control streams => (control, streams.2)⟩
  data := ⟨Prod.snd, fun data streams => (streams.1, data)⟩

theorem readBlock_ofPair (control data : σ) :
    (ofPair .input).readBlock (control, data) = match readUpTo recordSize control with
      | (.error fault, control') => (.error fault.errno, (control', data))
      | (.ok record, control') =>
        if record.length = recordSize ∧ isSampleSize (sampleSize record) then
          match readUpTo (RawBlock.announced record) data with
          | (.error fault, data') => (.error fault.errno, (control', data'))
          | (.ok payload, data') => (.ok ⟨record, payload⟩, (control', data'))
        else (.error .controlWrong, (control', data)) := by
  rw [readBlock_of_input rfl]
  rcases hcontrol : readUpTo recordSize control with ⟨fault | record, control'⟩
  · have hrun : (ofPair .input).control.readUpTo recordSize (control, data) =
        (.error fault.errno, (control', data)) := Lens.run_of_error hcontrol
    rw [hrun]
  · have hrun : (ofPair .input).control.readUpTo recordSize (control, data) =
        (.ok record, (control', data)) := Lens.run_of_ok hcontrol
    rw [hrun]
    dsimp only
    rcases hdata : readUpTo (RawBlock.announced record) data with ⟨fault | payload, data'⟩
    · have hrun : (ofPair .input).data.readUpTo (RawBlock.announced record) (control', data) =
          (.error fault.errno, (control', data')) := Lens.run_of_error hdata
      rw [hrun]
    · have hrun : (ofPair .input).data.readUpTo (RawBlock.announced record) (control', data) =
          (.ok payload, (control', data')) := Lens.run_of_ok hdata
      rw [hrun]

theorem writeBlock_ofPair {block : RawBlock} (hlength : recordSize ≤ block.control.length)
    (control data : σ) :
    (ofPair .output).writeBlock block (control, data) = match deliver block.control control with
      | (.error fault, control') => (.error fault.errno, (control', data))
      | (.ok (), control') =>
        ((deliver block.data data).1.mapError Fault.errno, (control', (deliver block.data data).2)) := by
  have hcontrol : (ofPair .output).control.deliver block.control (control, data) =
      ((deliver block.control control).1.mapError Fault.errno,
        ((deliver block.control control).2, data)) :=
    Lens.deliver_eq (fun _ _ => rfl) (fun _ _ _ => rfl) _ _
  rw [writeBlock_of_output rfl hlength, Effect.bind_apply, hcontrol]
  rcases deliver block.control control with ⟨fault | _, control'⟩
  · rfl
  · exact Lens.deliver_eq (fun _ _ => rfl) (fun _ _ _ => rfl) _ _

end Lane

theorem Backend.readBlock_of_input {S : Type} [Backend S] {streams : ChannelStreams}
    (hinput : streams.direction = .input) (store : S) :
    readBlock streams store = match (lens streams.control).readUpTo recordSize store with
      | (.error code, next) => (.error code, next)
      | (.ok control, next) =>
        if control.length = recordSize ∧ isSampleSize (Lane.sampleSize control) then
          match (lens streams.data).readUpTo (RawBlock.announced control) next with
          | (.error code, after) => (.error code, after)
          | (.ok data, after) => (.ok ⟨control, data⟩, after)
        else (.error .controlWrong, next) :=
  Lane.readBlock_of_input hinput store

end DaqBus
