import DaqBus.Stream.Basic

/-!
# What a bounded read comes to

A stream hands out its bytes in pieces of its own choice, and it may be interrupted between them. A
bounded read goes on until the limit is reached, the stream ends or a read fails, and these are the only
ways in which it comes to an end: nothing that the stream gave meanwhile is lost but in the last one.
-/

namespace DaqBus.ByteStream

variable {σ : Type} [ByteStream σ]

/-- Between two states the stream has given some bytes, in any pieces and with any interruptions. -/
inductive Gives : σ → Bytes → σ → Prop
  | nothing (s : σ) : Gives s [] s
  | piece {n : Nat} {b : UInt8} {bs rest : Bytes} {s next last : σ}
      (hread : read n s = (.ok (b :: bs), next)) (hrest : Gives next rest last) :
      Gives s (b :: bs ++ rest) last
  | interruption {n : Nat} {fault : Fault} {rest : Bytes} {s next last : σ}
      (hread : read n s = (.error fault, next)) (hfault : fault.isInterrupted = true)
      (hrest : Gives next rest last) : Gives s rest last

/-- What a bounded read can come to. -/
inductive Bounded (limit : Nat) (s : σ) : Except Fault Bytes → σ → Prop
  | full {bs : Bytes} {after : σ} (hgives : Gives s bs after) (hlength : bs.length = limit) :
      Bounded limit s (.ok bs) after
  | ended {bs : Bytes} {n : Nat} {last after : σ} (hgives : Gives s bs last)
      (hlength : bs.length < limit) (hn : 0 < n) (hread : read n last = (.ok [], after)) :
      Bounded limit s (.ok bs) after
  | failed {bs : Bytes} {n : Nat} {fault : Fault} {last after : σ} (hgives : Gives s bs last)
      (hlength : bs.length < limit) (hread : read n last = (.error fault, after))
      (hfault : fault.isInterrupted = false) : Bounded limit s (.error fault) after

namespace Bounded

variable {limit : Nat} {s next after : σ} {outcome : Except Fault Bytes}

theorem length_le {bs : Bytes} (h : Bounded limit s (.ok bs) after) : bs.length ≤ limit := by
  cases h with
  | full hgives hlength => exact Nat.le_of_eq hlength
  | ended hgives hlength hn hread => exact Nat.le_of_lt hlength

theorem gives_of_full {bs : Bytes} (h : Bounded limit s (.ok bs) after) (hlength : bs.length = limit) :
    Gives s bs after := by
  cases h with
  | full hgives _ => exact hgives
  | ended _ hless => exact absurd hlength (Nat.ne_of_lt hless)

theorem ended_of_short {bs : Bytes} (h : Bounded limit s (.ok bs) after) (hlength : bs.length < limit) :
    ∃ n last, 0 < n ∧ Gives s bs last ∧ read n last = (.ok [], after) := by
  cases h with
  | full _ hfull => exact absurd hfull (Nat.ne_of_lt hlength)
  | ended hgives _ hn hread => exact ⟨_, _, hn, hgives, hread⟩

theorem of_piece {b : UInt8} {bs : Bytes} (hread : read limit s = (.ok (b :: bs), next))
    (hrest : Bounded (limit - (bs.length + 1)) next outcome after) :
    Bounded limit s (outcome.map (b :: bs ++ ·)) after := by
  have hsize : bs.length + 1 ≤ limit := length_read_le hread
  have hlength (rest : Bytes) : (b :: bs ++ rest).length = bs.length + 1 + rest.length := by
    rw [List.length_append, List.length_cons]
  cases hrest with
  | full hgives hrest =>
      exact .full (.piece hread hgives) (by rw [hlength]; omega)
  | ended hgives hrest hn hend =>
      exact .ended (.piece hread hgives) (by rw [hlength]; omega) hn hend
  | failed hgives hrest hend hfault =>
      exact .failed (.piece hread hgives) (by rw [hlength]; omega) hend hfault

theorem of_interruption {n : Nat} {fault : Fault} (hread : read n s = (.error fault, next))
    (hfault : fault.isInterrupted = true) (hrest : Bounded limit next outcome after) :
    Bounded limit s outcome after := by
  cases hrest with
  | full hgives hlength => exact .full (.interruption hread hfault hgives) hlength
  | ended hgives hlength hn hend => exact .ended (.interruption hread hfault hgives) hlength hn hend
  | failed hgives hlength hend hlast =>
      exact .failed (.interruption hread hfault hgives) hlength hend hlast

end Bounded

/-- **Bounded reads.** -/
theorem bounded_readUpTo (limit : Nat) (s : σ) :
    Bounded limit s (readUpTo limit s).1 (readUpTo limit s).2 := by
  fun_induction readUpTo limit s with
  | case1 s => exact .full (.nothing s) rfl
  | case2 limit s hlimit fault next hread hfault ih => exact .of_interruption hread hfault ih
  | case3 limit s hlimit fault next hread hfault =>
      exact .failed (.nothing s) (Nat.pos_of_ne_zero hlimit) hread (by simpa using hfault)
  | case4 limit s hlimit next hread =>
      have hpos := Nat.pos_of_ne_zero hlimit
      exact .ended (.nothing s) hpos hpos hread
  | case5 limit s hlimit b bs next hread rest last hrest ih =>
      rw [hrest] at ih
      exact .of_piece hread ih
  | case6 limit s hlimit b bs next hread fault last hrest ih =>
      rw [hrest] at ih
      exact .of_piece hread ih

end DaqBus.ByteStream
