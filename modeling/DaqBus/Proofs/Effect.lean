import DaqBus.Bus.Basic

/-!
# Running effects

Work on a store and work on a bus are functions from a state to an outcome and a state. These
equations run one step of such work; everything else takes programs apart with them.
-/

namespace DaqBus.Effect

variable {σ ε α β : Type}

theorem bind_apply (x : ExceptT ε (StateM σ) α) (f : α → ExceptT ε (StateM σ) β) (s : σ) :
    (x >>= f) s = match x s with
      | (.ok a, after) => f a after
      | (.error e, after) => (.error e, after) := by
  show (match (x s).1 with
    | .ok a => f a
    | .error e => pure (.error e) : StateM σ (Except ε β)) (x s).2 = _
  rcases x s with ⟨_ | _, after⟩ <;> rfl

theorem bind_of_ok {x : ExceptT ε (StateM σ) α} {f : α → ExceptT ε (StateM σ) β} {s after : σ}
    {a : α} (hx : x s = (.ok a, after)) : (x >>= f) s = f a after := by
  rw [bind_apply, hx]

theorem bind_of_error {x : ExceptT ε (StateM σ) α} {f : α → ExceptT ε (StateM σ) β} {s after : σ}
    {e : ε} (hx : x s = (.error e, after)) : (x >>= f) s = (.error e, after) := by
  rw [bind_apply, hx]

theorem map_apply (f : α → β) (x : ExceptT ε (StateM σ) α) (s : σ) :
    (f <$> x) s = ((x s).1.map f, (x s).2) := by
  show (match (x s).1 with
    | .ok a => pure (.ok (f a))
    | .error e => pure (.error e) : StateM σ (Except ε β)) (x s).2 = _
  rcases x s with ⟨_ | _, after⟩ <;> rfl

theorem map_of_error {f : α → β} {x : ExceptT ε (StateM σ) α} {s after : σ} {e : ε}
    (hx : x s = (.error e, after)) : (f <$> x) s = (.error e, after) := by
  rw [map_apply, hx]
  rfl

theorem pure_apply (a : α) (s : σ) : (pure a : ExceptT ε (StateM σ) α) s = (.ok a, s) := rfl

theorem throw_apply (e : ε) (s : σ) : (throw e : ExceptT ε (StateM σ) α) s = (.error e, s) := rfl

theorem get_apply (s : σ) : (get : ExceptT ε (StateM σ) σ) s = (.ok s, s) := rfl

theorem set_apply (s s' : σ) : (set s' : ExceptT ε (StateM σ) PUnit) s = (.ok ⟨⟩, s') := rfl

end DaqBus.Effect
