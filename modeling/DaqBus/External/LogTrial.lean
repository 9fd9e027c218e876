import DaqBus.External.LogFilter
/-!
Trying out a log: a span opens and closes as an error, and then one event of each level is emitted.
The events have a message and no other field.
-/

namespace DaqBus.External

structure LogTrial where
  /-- The levels whose events are printed. -/
  printed : List Level
  /-- Something is printed, and each line is a JSON object. -/
  isJson : Bool
  isColoured : Bool
  /-- There are as many lines as printed events. -/
  isOneLinePerEvent : Bool
  /-- The end of the span is printed. -/
  showsSpan : Bool
deriving DecidableEq, Repr

def LogTrial.ofLayer (layer : LogLayer LogFilter) : LogTrial :=
  let printed := Level.all.filter (layer.filter.forEvent ["message"]).allows
  let showsSpan := layer.spanEvents && layer.filter.forSpan.allows .error
  let isSilent := printed = [] && !showsSpan
  { printed
    isJson := layer.format = .json && !isSilent
    isColoured := layer.ansi && !isSilent
    isOneLinePerEvent := isSilent || (layer.format ≠ .pretty && !showsSpan)
    showsSpan }

end DaqBus.External
