import DaqBus.Config.Settings
/-!
Loading the settings from three layers: the defaults, a file, and environment variables. The layers are
merged before anything is read, so that a layer can leave out what it does not say.
-/

namespace DaqBus.Config

/-- Where the settings file is unless told otherwise. -/
def defaultFile : String := "config/zio.toml"

/-- What the names of the variables begin with, in whatever case. -/
def nameStart : String := "RUST_ZIO_"

/-- What stands between the keys in the name of a variable. -/
def keyMark : String := "__"

def loadMessage (reason : String) : String := "Configuration error: " ++ reason

namespace Library

variable {Value Error Document : Type} (lib : Library Value Error Document)

/-- The document in a file, if there is a file. -/
def document? : Option String → Except Error (Option Document)
  | none => .ok none
  | some text => some <$> lib.parse text

/-- The settings from the text of a file, if there is one, and a list of variables. -/
def load (file : Option String) (environment : List (String × String)) : Except Error Settings := do
  let defaults := lib.settings.write {}
  let document ← lib.document? file
  let given := document.elim lib.empty lib.ofDocument
  let named := lib.ofEnvironment nameStart keyMark environment
  lib.settings.read (lib.merge (lib.merge defaults given) named)

end Library

end DaqBus.Config
