import DaqBus.Block.Transfer
import DaqBus.Proofs.Stream.Queue

/-!
# Work on states that are alike

A relation says which states are alike for an observer. Work that respects it tells the same on
states that are alike and leaves states that are alike; work that spares it cannot be noticed by the
observer at all. Both hold of work that is put together from such work, and what is said of both at
once is said of work that is visible or not.
-/

namespace DaqBus

namespace Effect

variable {σ ε α β : Type} {R : σ → σ → Prop} {x : ExceptT ε (StateM σ) α}
  {f : α → ExceptT ε (StateM σ) β} {visible : Bool}

def Respects (R : σ → σ → Prop) (x : ExceptT ε (StateM σ) α) : Prop :=
  ∀ s t, R s t → (x s).1 = (x t).1 ∧ R (x s).2 (x t).2

def Spares (R : σ → σ → Prop) (x : ExceptT ε (StateM σ) α) : Prop :=
  ∀ s t, R s t → R (x s).2 t

def Keeps : (visible : Bool) → (σ → σ → Prop) → ExceptT ε (StateM σ) α → Prop
  | true => Respects
  | false => Spares

/-- The same at two states that are alike. -/
def KeepsAt : (visible : Bool) → (σ → σ → Prop) → ExceptT ε (StateM σ) α → σ → σ → Prop
  | true, R, x, s, t => (x s).1 = (x t).1 ∧ R (x s).2 (x t).2
  | false, R, x, s, t => R (x s).2 t

theorem Keeps.keepsAt (hx : Keeps visible R x) {s t : σ} (h : R s t) : KeepsAt visible R x s t := by
  cases visible with
  | true => exact hx s t h
  | false => exact hx s t h

theorem keeps_pure (visible : Bool) (a : α) :
    Keeps visible R (pure a : ExceptT ε (StateM σ) α) := by
  cases visible with
  | true => exact fun _ _ h => ⟨rfl, h⟩
  | false => exact fun _ _ h => h

theorem keeps_throw (visible : Bool) (e : ε) :
    Keeps visible R (throw e : ExceptT ε (StateM σ) α) := by
  cases visible with
  | true => exact fun _ _ h => ⟨rfl, h⟩
  | false => exact fun _ _ h => h

theorem Respects.bind (hx : Respects R x) (hf : ∀ a, Respects R (f a)) : Respects R (x >>= f) := by
  intro s t h
  obtain ⟨hsame, hafter⟩ := hx s t h
  rw [bind_apply, bind_apply]
  generalize x s = first at hsame hafter ⊢
  generalize x t = second at hsame hafter ⊢
  obtain ⟨outcome, s'⟩ := first
  obtain ⟨_, t'⟩ := second
  cases hsame
  cases outcome with
  | error e => exact ⟨rfl, hafter⟩
  | ok a => exact hf a s' t' hafter

theorem Spares.bind (hx : Spares R x) (hf : ∀ a, Spares R (f a)) : Spares R (x >>= f) := by
  intro s t h
  have hafter := hx s t h
  rw [bind_apply]
  generalize x s = first at hafter ⊢
  obtain ⟨outcome, s'⟩ := first
  cases outcome with
  | error e => exact hafter
  | ok a => exact hf a s' t hafter

theorem Keeps.bind (hx : Keeps visible R x) (hf : ∀ a, Keeps visible R (f a)) :
    Keeps visible R (x >>= f) := by
  cases visible with
  | true => exact Respects.bind hx hf
  | false => exact Spares.bind hx hf

theorem Keeps.map (hx : Keeps visible R x) (g : α → β) : Keeps visible R (g <$> x) := by
  rw [map_eq_pure_bind]
  exact hx.bind fun a => keeps_pure visible (g a)

theorem keeps_mapM {f : β → ExceptT ε (StateM σ) α} {values : List β}
    (hf : ∀ b ∈ values, Keeps visible R (f b)) : Keeps visible R (values.mapM f) := by
  induction values with
  | nil => exact keeps_pure visible []
  | cons b values ih =>
      rw [List.mapM_cons]
      refine (hf b List.mem_cons_self).bind fun a => ?_
      refine (ih fun b hb => hf b (List.mem_cons_of_mem _ hb)).bind fun as => ?_
      exact keeps_pure visible (a :: as)

end Effect

open Effect

/-! ### Streams -/

namespace Lens

variable {S σ α : Type} {R : S → S → Prop} {lens : Lens S σ} {visible : Bool}

/-- Alike states hold the same stream, and whatever is put into its place is seen. -/
structure IsSeen (R : S → S → Prop) (lens : Lens S σ) : Prop where
  view : ∀ s t, R s t → lens.view s = lens.view t
  put : ∀ stream s t, R s t → R (lens.put stream s) (lens.put stream t)

/-- Nothing that is put into the place of the stream is seen. -/
def IsHidden (R : S → S → Prop) (lens : Lens S σ) : Prop :=
  ∀ stream s t, R s t → R (lens.put stream s) t

def IsPlaced : (visible : Bool) → (S → S → Prop) → Lens S σ → Prop
  | true => IsSeen
  | false => IsHidden

theorem IsPlaced.keeps_run (h : lens.IsPlaced visible R) (operation : σ → Except Fault α × σ) :
    Keeps visible R (lens.run operation) := by
  cases visible with
  | true =>
      intro s t hstate
      rw [run_eq, run_eq, h.view s t hstate]
      exact ⟨rfl, h.put _ s t hstate⟩
  | false =>
      intro s t hstate
      rw [run_eq]
      exact h _ s t hstate

end Lens

namespace Lane

variable {S σ : Type} [ByteStream σ] {R : S → S → Prop} {lane : Lane S σ} {visible : Bool}

theorem keeps_readBlock (hcontrol : lane.control.IsPlaced visible R)
    (hdata : lane.data.IsPlaced visible R) : Keeps visible R lane.readBlock := by
  unfold readBlock
  split
  · exact keeps_throw visible _
  refine (hcontrol.keeps_run _).bind fun control => ?_
  split
  · exact keeps_throw visible _
  dsimp only
  split
  · exact keeps_throw visible _
  · exact (hdata.keeps_run _).bind fun data => keeps_pure visible _

theorem keeps_writeBlock (hcontrol : lane.control.IsPlaced visible R)
    (hdata : lane.data.IsPlaced visible R) (block : RawBlock) :
    Keeps visible R (lane.writeBlock block) := by
  unfold writeBlock
  dsimp only
  split
  · exact keeps_throw visible _
  split
  · exact keeps_throw visible _
  · exact (hcontrol.keeps_run _).bind fun _ => (hcontrol.keeps_run _).bind fun _ =>
      (hdata.keeps_run _).bind fun _ => hdata.keeps_run _

end Lane

/-! ### Buses -/

namespace Bus

variable {S ε δ α : Type} {R : S → S → Prop} {seen : Nat → Prop} {Q : Bus S → Bus S → Prop}
  {visible : Bool}

/-- Buses on alike stores with as many openings, on which the same of those that are `seen` are
over. -/
structure Alike (R : S → S → Prop) (seen : Nat → Prop) (b c : Bus S) : Prop where
  store : R b.store c.store
  opened : b.opened = c.opened
  isClosed : ∀ number, seen number → b.isClosed number = c.isClosed number

theorem keeps_emit (event : Event) :
    Keeps visible (Alike R seen) (emit event : BusM S ε Unit) := by
  cases visible with
  | true => exact fun _ _ h => ⟨rfl, h.store, h.opened, h.isClosed⟩
  | false => exact fun _ _ h => ⟨h.store, h.opened, h.isClosed⟩

theorem keeps_onStore {operation : StoreM S α} (h : Keeps visible R operation) :
    Keeps visible (Alike R seen) (onStore operation) := by
  cases visible with
  | true =>
      intro b c hbus
      obtain ⟨hsame, hafter⟩ := h b.store c.store hbus.store
      exact ⟨hsame, hafter, hbus.opened, hbus.isClosed⟩
  | false => exact fun b c hbus => ⟨h b.store c.store hbus.store, hbus.opened, hbus.isClosed⟩

theorem keeps_restate {operation : BusM S δ α} (f : δ → ε) (h : Keeps visible Q operation) :
    Keeps visible Q (restate f operation) := by
  cases visible with
  | true =>
      intro b c hbus
      obtain ⟨hsame, hafter⟩ := h b c hbus
      exact ⟨congrArg (Except.mapError f) hsame, hafter⟩
  | false => exact fun b c hbus => h b c hbus

theorem keeps_attempt {operation : BusM S δ α} (h : Keeps visible Q operation) :
    Keeps visible Q (attempt operation : BusM S ε _) := by
  cases visible with
  | true =>
      intro b c hbus
      obtain ⟨hsame, hafter⟩ := h b c hbus
      exact ⟨congrArg Except.ok hsame, hafter⟩
  | false => exact fun b c hbus => h b c hbus

end Bus

end DaqBus
