import DaqBus.Logging.Options
/-!
What is installed to print a log. Filters come from a library; one in the environment takes the place of
the level of the options.
-/

namespace DaqBus

/-- What a library makes of the texts of filters. -/
structure LogFilters (Filter : Type) where
  /-- The filter with a text, unless it is faulty. -/
  parse? : String → Option Filter
  /-- The filter with a text, without what is faulty in it. -/
  ofText : String → Filter

structure LogLayer (Filter : Type) where
  filter : Filter
  format : LogFormat
  ansi : Bool
  spanEvents : Bool
  file : Bool
  lineNumber : Bool
  threadNames : Bool

/-- The layer for some options and the filter that the environment gives. -/
def LogOptions.layer {Filter : Type} (filters : LogFilters Filter) (options : LogOptions)
    (given : Option String) : LogLayer Filter where
  filter := (given.bind filters.parse?).getD (filters.ofText options.level.text)
  format := options.format
  ansi := options.format = .pretty && options.ansi
  spanEvents := options.spanEvents
  file := options.fileAndLine
  lineNumber := options.fileAndLine
  threadNames := options.threadNames

end DaqBus
