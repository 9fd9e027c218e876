import DaqBus.Proofs.Effect
import DaqBus.Tree.Lifetime

/-!
# Opening a device

On any backend a device opens if the backend finds its record, and its tree is that of the record. Work
on an open device ends with the teardown of the device.
-/

namespace DaqBus.Bus

theorem forM_emit_eq {S ε : Type} (events : List Event) (bus : Bus S) :
    events.forM (fun event => (emit event : BusM S ε Unit)) bus =
      (.ok (), { bus with log := bus.log ++ events }) := by
  induction events generalizing bus with
  | nil =>
      rw [List.append_nil]
      rfl
  | cons event events ih =>
      refine (Effect.bind_of_ok rfl).trans ((ih (bus.record event)).trans ?_)
      rw [record, List.append_assoc, List.singleton_append]

variable {S α : Type} [Backend S]

theorem openDevice_of_findDevice (name : String) (id : Option UInt32) (bus : Bus S) :
    ∃ log, openDevice name id bus =
      match findDevice name id bus with
      | (.ok record, found) => (.ok (Device.ofRecord ⟨found.opened, record.head.base⟩ id record),
          { found with log, opened := found.opened + 1 })
      | (.error code, found) => (.error (.openFailure name id code.message), found) := by
  unfold openDevice
  rw [Effect.bind_apply, restate]
  rcases findDevice name id bus with ⟨code | record, found⟩
  · exact ⟨found.log, rfl⟩
  · dsimp only [restate, register]
    simp only [Effect.bind_apply, forM_emit_eq]
    exact ⟨_, rfl⟩

theorem exists_record_of_openDevice {name : String} {id : Option UInt32} {bus after : Bus S}
    {device : Device} (hopen : openDevice name id bus = (.ok device, after)) :
    ∃ record found log, findDevice name id bus = (.ok record, found) ∧
      device = Device.ofRecord ⟨found.opened, record.head.base⟩ id record ∧
      after = { found with log, opened := found.opened + 1 } := by
  obtain ⟨log, heq⟩ := openDevice_of_findDevice name id bus
  rw [hopen] at heq
  rcases hfind : findDevice name id bus with ⟨code | record, found⟩
  · rw [hfind] at heq
    cases heq
  · rw [hfind] at heq
    cases heq
    exact ⟨record, found, log, rfl, rfl, rfl⟩

/-- **Work on an open device.** The work is done if the device opens, its outcome is returned as it is,
and the device is torn down afterwards, whatever the outcome. -/
theorem withDevice_eq (name : String) (id : Option UInt32) (work : Device → BusM S BusError α)
    (bus : Bus S) :
    withDevice name id work bus =
      match openDevice name id (bus.record (.scopeEntered name id)) with
      | (.ok device, opened) => ((work device opened).1, device.teardown (work device opened).2)
      | (.error failure, after) => (.error failure, after) := by
  unfold withDevice
  have hscope : (emit (.scopeEntered name id) : BusM S BusError Unit) bus =
      (.ok (), bus.record (.scopeEntered name id)) := rfl
  rw [Effect.bind_of_ok hscope, Effect.bind_apply]
  rcases openDevice name id (bus.record (.scopeEntered name id)) with ⟨failure | device, opened⟩
  · rfl
  · rcases hwork : work device opened with ⟨outcome, worked⟩
    have hattempt : attempt (ε := BusError) (work device) opened = (.ok outcome, worked) := by
      rw [attempt, hwork]
    have hclose : device.close worked = (.ok (), device.teardown worked) := rfl
    refine (Effect.bind_of_ok hattempt).trans ((Effect.bind_of_ok hclose).trans ?_)
    dsimp only
    rw [hwork]
    cases outcome with
    | error failure => rfl
    | ok value => rfl

end DaqBus.Bus
