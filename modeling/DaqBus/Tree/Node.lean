import DaqBus.Tree.Attribute
/-!
What every object of a tree has: its names, its kind, its enable switch and its attributes.
-/

namespace DaqBus

/-- The attribute paths of a record, standard group first. A group ends at its first empty slot. -/
def attributePaths (standard extended : List String) : List String :=
  standard.takeWhile (· ≠ "") ++ extended.takeWhile (· ≠ "")

/-- An object with its enable switch and its attributes. -/
structure Node where
  name : String
  deviceName : String
  base : String
  kind : ObjectKind
  enableSwitch : Attribute
  attributes : List Attribute
deriving DecidableEq, Repr

namespace Node

/-- The node of a record, all its handles belonging to one opening. -/
def ofHead (opening : Opening) (head : HeadRecord) : Node where
  name := head.name
  deviceName := head.deviceName
  base := head.base
  kind := head.kind
  enableSwitch := { path := head.enable, opening }
  attributes := (attributePaths head.standard.toList head.extended.toList).map fun path =>
    { path, opening }

/-- What the log says when the node is built. -/
def built (node : Node) : Event :=
  .nodeBuilt node.base node.attributes.length

def attribute? (node : Node) (name : String) : Option Attribute :=
  node.attributes.find? fun a => a.name = name

variable {S : Type} [Backend S]

/-- Switches the object on. Whether it came on is not looked at. -/
def enable (node : Node) : BusM S BusError Unit :=
  node.enableSwitch.writeText "1"

def disable (node : Node) : BusM S BusError Unit :=
  node.enableSwitch.writeText "0"

/-- Whether the object is on, as the device says. -/
def isEnabled (node : Node) : BusM S BusError Bool := do
  return (← node.enableSwitch.read) ≠ 0

end Node

end DaqBus
