/-!
The ways to print a log.
-/

namespace DaqBus

inductive LogFormat
  /-- Several lines for an event, in colour. -/
  | pretty
  /-- One line for an event. -/
  | compact
  /-- One JSON object for an event. -/
  | json
deriving DecidableEq, Repr

namespace LogFormat

def text : LogFormat → String
  | pretty => "pretty"
  | compact => "compact"
  | json => "json"

def ofName? : String → Option LogFormat
  | "pretty" => some pretty
  | "compact" => some compact
  | "json" => some json
  | _ => none

def all : List LogFormat := [pretty, compact, json]

end LogFormat

end DaqBus
