import DaqBus.Proofs.Effect
import DaqBus.Stream.Lens
import DaqBus.Stream.Queue

/-!
# Queues driven to a limit

A queue serves a bounded read at once: what comes back is the front up to the limit, and what stays
is the rest. It accepts every write at once as well, so that neither of the two loops over a stream
goes round more than once with something to do.
-/

namespace DaqBus

namespace ByteStream

variable {σ : Type} [ByteStream σ] {s s' : σ}

theorem readUpTo_zero (s : σ) : readUpTo 0 s = (.ok [], s) := by
  rw [readUpTo, if_pos rfl]

theorem readUpTo_of_ended {limit : Nat} (hlimit : limit ≠ 0) (hread : read limit s = (.ok [], s')) :
    readUpTo limit s = (.ok [], s') := by
  rw [readUpTo, if_neg hlimit]
  split <;> rename_i heq <;> rw [hread] at heq <;> cases heq
  rfl

theorem readUpTo_of_chunk {limit : Nat} {b : UInt8} {bs : Bytes} (hlimit : limit ≠ 0)
    (hread : read limit s = (.ok (b :: bs), s')) :
    readUpTo limit s = match readUpTo (limit - (bs.length + 1)) s' with
      | (.ok rest, s'') => (.ok (b :: bs ++ rest), s'')
      | (.error f, s'') => (.error f, s'') := by
  rw [readUpTo, if_neg hlimit]
  split <;> rename_i heq <;> rw [hread] at heq <;> cases heq
  rfl

theorem writeAll_nil (s : σ) : writeAll [] s = (.ok (), s) := by
  rw [writeAll, dif_pos rfl]

theorem writeAll_of_accepted {bs : Bytes} {n : Nat} (hbs : bs ≠ [])
    (hwrite : write bs s = (.ok (n + 1), s')) : writeAll bs s = writeAll (bs.drop (n + 1)) s' := by
  rw [writeAll, dif_neg hbs]
  split <;> rename_i heq <;> rw [hwrite] at heq <;> cases heq
  rfl

end ByteStream

namespace Queue

open ByteStream

theorem push_nil (q : Queue) : q.push [] = q := by
  rw [push, List.append_nil]

theorem read_eq (limit : Nat) (q : Queue) :
    ByteStream.read limit q = (.ok (q.bytes.take limit), ⟨q.bytes.drop limit⟩) := rfl

theorem write_eq (bs : Bytes) (q : Queue) : ByteStream.write bs q = (.ok bs.length, q.push bs) := rfl

theorem flush_eq (q : Queue) : ByteStream.flush q = (.ok (), q) := rfl

theorem readUpTo_nil (limit : Nat) : readUpTo limit (⟨[]⟩ : Queue) = (.ok [], ⟨[]⟩) := by
  by_cases hlimit : limit = 0
  · rw [hlimit, readUpTo_zero]
  · apply readUpTo_of_ended hlimit
    rw [read_eq, List.take_nil, List.drop_nil]

/-- A read up to a limit takes the front of the queue and leaves the rest. -/
theorem readUpTo_eq (limit : Nat) (q : Queue) :
    readUpTo limit q = (.ok (q.bytes.take limit), ⟨q.bytes.drop limit⟩) := by
  by_cases hlimit : limit = 0
  · rw [hlimit, readUpTo_zero, List.take_zero, List.drop_zero]
  cases htake : q.bytes.take limit with
  | nil =>
      apply readUpTo_of_ended hlimit
      rw [read_eq, htake]
  | cons b bs =>
      have hread : ByteStream.read limit q = (.ok (b :: bs), ⟨q.bytes.drop limit⟩) := by
        rw [read_eq, htake]
      have hlength : bs.length + 1 = min limit q.bytes.length := by
        rw [← List.length_take, htake, List.length_cons]
      -- Either the limit is reached or the queue is empty, so the second round finds nothing.
      have hrest : readUpTo (limit - (bs.length + 1)) (⟨q.bytes.drop limit⟩ : Queue) =
          (.ok [], ⟨q.bytes.drop limit⟩) := by
        by_cases hall : q.bytes.length ≤ limit
        · rw [List.drop_of_length_le hall, readUpTo_nil]
        · rw [show limit - (bs.length + 1) = 0 by omega, readUpTo_zero]
      rw [readUpTo_of_chunk hlimit hread, hrest]
      simp only [List.append_nil]

/-- A write of all bytes puts them at the end of the queue. -/
theorem writeAll_eq (bs : Bytes) (q : Queue) : writeAll bs q = (.ok (), q.push bs) := by
  cases bs with
  | nil => rw [writeAll_nil, push_nil]
  | cons b bs =>
      have hdrop : (b :: bs).drop (bs.length + 1) = [] := List.drop_of_length_le (Nat.le_refl _)
      rw [writeAll_of_accepted (List.cons_ne_nil b bs) (write_eq (b :: bs) q), hdrop, writeAll_nil]

end Queue

namespace Lens

variable {S σ α : Type}

/-- What runs on the stream inside, as a whole. -/
theorem run_eq (lens : Lens S σ) (operation : σ → Except Fault α × σ) (state : S) :
    lens.run operation state =
      ((operation (lens.view state)).1.mapError Fault.errno,
        lens.put (operation (lens.view state)).2 state) := by
  rw [run, Effect.bind_of_ok (Effect.get_apply state)]
  rcases operation (lens.view state) with ⟨outcome, stream⟩
  cases outcome with
  | ok value => exact Effect.bind_of_ok (Effect.set_apply state _)
  | error fault => exact Effect.bind_of_ok (Effect.set_apply state _)

theorem run_of_ok {lens : Lens S σ} {operation : σ → Except Fault α × σ} {state : S} {value : α}
    {stream : σ} (hrun : operation (lens.view state) = (.ok value, stream)) :
    lens.run operation state = (.ok value, lens.put stream state) := by
  rw [run_eq, hrun]
  rfl

theorem run_of_error {lens : Lens S σ} {operation : σ → Except Fault α × σ} {state : S} {fault : Fault}
    {stream : σ} (hrun : operation (lens.view state) = (.error fault, stream)) :
    lens.run operation state = (.error fault.errno, lens.put stream state) := by
  rw [run_eq, hrun]
  rfl

theorem readUpTo_queue (lens : Lens S Queue) (limit : Nat) (state : S) :
    lens.readUpTo limit state =
      (.ok ((lens.view state).bytes.take limit),
        lens.put ⟨(lens.view state).bytes.drop limit⟩ state) :=
  run_of_ok (Queue.readUpTo_eq limit (lens.view state))

theorem writeAll_queue (lens : Lens S Queue) (bs : Bytes) (state : S) :
    lens.writeAll bs state = (.ok (), lens.put ((lens.view state).push bs) state) :=
  run_of_ok (Queue.writeAll_eq bs (lens.view state))

theorem flush_queue (lens : Lens S Queue) (state : S) :
    lens.flush state = (.ok (), lens.put (lens.view state) state) :=
  run_of_ok (Queue.flush_eq (lens.view state))

end Lens

end DaqBus
