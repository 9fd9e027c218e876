import DaqBus.Config.Check
/-!
The options of a log, and how the settings choose them.
-/

namespace DaqBus

/-- The level with a name, in whatever case. -/
def Level.ofText? (s : String) : Option Level := Level.ofName? (Text.lowerCase s)

/-- The format with a name, in whatever case. -/
def LogFormat.ofText? (s : String) : Option LogFormat := LogFormat.ofName? (Text.lowerCase s)

structure LogOptions where
  /-- The least severe level that is printed, unless a filter says otherwise. -/
  level : Level := .info
  format : LogFormat := .pretty
  /-- Whether the beginning and the end of spans are printed. -/
  spanEvents : Bool := false
  fileAndLine : Bool := false
  threadNames : Bool := true
  /-- Whether the pretty format uses colours. -/
  ansi : Bool := true
deriving DecidableEq, Repr

namespace LogOptions

/-- Why settings choose no options. -/
inductive Refusal
  | level (given : String)
  | format (given : String)
deriving DecidableEq, Repr

def Refusal.message : Refusal → String
  | level given => Config.invalidMessage
      s!"Invalid log level '{given}'. Must be one of: trace, debug, info, warn, error"
  | format given => Config.invalidMessage
      s!"Invalid log format '{given}'. Must be one of: pretty, compact, json"

/-- The options that the settings ask for. A faulty level is reported before a faulty format. -/
def ofSettings (settings : Config.LogSettings) : Except Refusal LogOptions := do
  let level ← (Level.ofText? settings.level).elim (throw (.level settings.level)) pure
  let format ← (LogFormat.ofText? settings.format).elim (throw (.format settings.format)) pure
  return { level, format }

end LogOptions

end DaqBus
