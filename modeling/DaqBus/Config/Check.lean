import DaqBus.Config.Settings
import DaqBus.Logging.Format
import DaqBus.Logging.Level
import DaqBus.Text.Case
/-!
Checking settings before they are used.
-/

namespace DaqBus.Config

inductive Invalid
  | level (given : String)
  | format (given : String)
  | emptyPath (key : String)
deriving DecidableEq, Repr

def invalidMessage (reason : String) : String := "Invalid configuration: " ++ reason

def Invalid.message : Invalid → String
  | level given => invalidMessage (unknown "level" given (Level.all.map Level.text))
  | format given => invalidMessage (unknown "format" given (LogFormat.all.map LogFormat.text))
  | emptyPath key => invalidMessage s!"{key} must not be empty"
where
  unknown (what given : String) (known : List String) : String :=
    s!"Invalid log {what} '{given}'. Must be one of: " ++ ", ".intercalate known

/-- Checks the level, the format and the two roots, in this order. -/
def Settings.check (settings : Settings) : Except Invalid Unit := do
  let { level, format } := settings.logging
  if Text.lowerCase level ∉ Level.all.map Level.text then throw (.level level)
  if Text.lowerCase format ∉ LogFormat.all.map LogFormat.text then throw (.format format)
  if settings.paths.busRoot = "" then throw (.emptyPath "paths.sys_root")
  if settings.paths.streamRoot = "" then throw (.emptyPath "paths.dev_root")

end DaqBus.Config
