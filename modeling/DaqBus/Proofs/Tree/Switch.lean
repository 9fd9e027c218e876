import DaqBus.Proofs.Text.Register

/-!
# Enable switches

A switch works if its file reads as what was written to it last. Then each of the two ways to set it
succeeds, and the node says afterwards how it was set.
-/

namespace DaqBus

variable {S : Type} [Backend S]

/-- A file that reads as what was written to it last. Which stores are those where the file has some
content and nothing else is other than it was, is told by `holds`. -/
structure Backend.IsRegister (path : String) (holds : Bytes → S → Prop) (store : S) : Prop where
  write : ∀ content, ∃ after, Backend.writeRaw path content store = (.ok (), after) ∧
    holds content after
  read : ∀ content after, holds content after → ∃ asked, holds content asked ∧
    Backend.readRaw path Backend.textLimit after = (.ok (content.take Backend.textLimit), asked)

namespace Node

/-- The operation succeeds, the node then says whether it is on, and the store is `kept` all the time.
Beyond the store only the log goes on. -/
def Sets (node : Node) (operation : BusM S BusError Unit) (on : Bool) (kept : S → Prop)
    (host : Bus S) : Prop :=
  ∃ switched asked log more,
    operation host = (.ok (), { host with store := switched, log }) ∧ kept switched ∧
    node.isEnabled { host with store := switched, log } =
      (.ok on, { host with store := asked, log := more }) ∧ kept asked

/-- The switch can be set both ways. -/
structure Switches (node : Node) (holds : Bytes → S → Prop) (host : Bus S) : Prop where
  enable : node.Sets node.enable true (holds (Text.Utf8.encode "1")) host
  disable : node.Sets node.disable false (holds (Text.Utf8.encode "0")) host

/-- Whatever is done with the switch fails and does nothing. -/
structure SwitchFails (node : Node) (code : Errno) (host : Bus S) : Prop where
  enable : node.enable host = (.error (node.enableSwitch.refusal code), host)
  disable : node.disable host = (.error (node.enableSwitch.refusal code), host)
  isEnabled : node.isEnabled host = (.error (node.enableSwitch.refusal code), host)

variable {node : Node} {holds : Bytes → S → Prop} {host : Bus S}

theorem isEnabled_of_content {content : Bytes} {value : UInt32} {store : S}
    (hopen : host.isClosed node.enableSwitch.opening.number = false)
    (hraw : Backend.readRaw node.enableSwitch.path Backend.textLimit host.store =
      (.ok (content.take Backend.textLimit), store))
    (hvalue : Attribute.numberOf? content = some value) :
    node.isEnabled host = (.ok (value ≠ 0), { host with
      store, log := host.log ++ [.attributeRead node.enableSwitch.path value] }) := by
  have hread := Attribute.read_of_content hopen hraw
  rw [hvalue] at hread
  unfold isEnabled
  rw [Effect.bind_of_ok hread]
  rfl

theorem sets_of_isRegister (hopen : host.isClosed node.enableSwitch.opening.number = false)
    (hregister : Backend.IsRegister node.enableSwitch.path holds host.store) (value : UInt32) :
    node.Sets (node.enableSwitch.writeText (toString value.toNat)) (value ≠ 0)
      (holds (Text.Utf8.encode (toString value.toNat))) host := by
  obtain ⟨switched, hwrite, hswitched⟩ :=
    hregister.write (Text.Utf8.encode (toString value.toNat))
  obtain ⟨asked, hasked, hread⟩ := hregister.read _ switched hswitched
  obtain ⟨log, hput⟩ : ∃ log, node.enableSwitch.writeText (toString value.toNat) host =
      (.ok (), { host with store := switched, log }) := by
    unfold Attribute.writeText Backend.writeText
    rw [Attribute.put_of_open hopen, hwrite]
    exact ⟨_, rfl⟩
  have hsays : node.isEnabled { host with store := switched, log } =
      (.ok (value ≠ 0), { host with
        store := asked, log := log ++ [.attributeRead node.enableSwitch.path value] }) :=
    isEnabled_of_content hopen hread (Attribute.numberOf?_encode value)
  exact ⟨switched, asked, log, _, hput, hswitched, hsays, hasked⟩

theorem switches_of_isRegister (hopen : host.isClosed node.enableSwitch.opening.number = false)
    (hregister : Backend.IsRegister node.enableSwitch.path holds host.store) :
    node.Switches holds host where
  enable := sets_of_isRegister hopen hregister 1
  disable := sets_of_isRegister hopen hregister 0

/-- A file that can be neither written nor read. -/
theorem switchFails_of_error {code : Errno}
    (hopen : host.isClosed node.enableSwitch.opening.number = false)
    (hwrite : ∀ content, Backend.writeRaw node.enableSwitch.path content host.store =
      (.error code, host.store))
    (hread : Backend.readRaw node.enableSwitch.path Backend.textLimit host.store =
      (.error code, host.store)) :
    node.SwitchFails code host := by
  have hput (text : String) : node.enableSwitch.writeText text host =
      (.error (node.enableSwitch.refusal code), host) := by
    unfold Attribute.writeText Backend.writeText
    rw [Attribute.put_of_open hopen, hwrite]
  refine ⟨hput "1", hput "0", ?_⟩
  exact Effect.bind_of_error (Attribute.read_of_error hopen hread)

theorem SwitchFails.not_switches {code : Errno} (h : node.SwitchFails code host) :
    ¬ node.Switches holds host := by
  intro hswitches
  obtain ⟨switched, asked, log, more, henable, -⟩ := hswitches.enable
  rw [h.enable] at henable
  cases henable

end Node

end DaqBus
