import DaqBus.Config.Library
import DaqBus.Files.Path
import DaqBus.Kernel.Basic
/-!
The settings of a program that works with the bus, and the records that hold them: sections with two
settings each. What a record leaves out has a default.
-/

namespace DaqBus.Config

structure PathSettings where
  busRoot : String := KernelBus.defaultBusRoot
  streamRoot : String := KernelBus.defaultStreamRoot
deriving DecidableEq, Repr

/-- What is logged and how. The texts are not checked yet. -/
structure LogSettings where
  level : String := "info"
  format : String := "pretty"
deriving DecidableEq, Repr

structure RunSettings where
  /-- Sweeps in a run; without a number it goes on until it is stopped. -/
  maxSweeps : Option UInt64 := none
  /-- Milliseconds between two sweeps. -/
  idleBackoff : UInt64 := 0
deriving DecidableEq, Repr

structure Settings where
  paths : PathSettings := {}
  logging : LogSettings := {}
  acquisition : RunSettings := {}
deriving DecidableEq, Repr

namespace Library

variable {Value Error Document : Type} (lib : Library Value Error Document)

def paths : Codec Value Error PathSettings :=
  let busRoot := lib.path.field "sys_root" ({} : PathSettings).busRoot
  let streamRoot := lib.path.field "dev_root" ({} : PathSettings).streamRoot
  (lib.record "PathsConfig" (.more busRoot (.last streamRoot))).imap
    (fun (busRoot, streamRoot) => { busRoot, streamRoot })
    fun settings => (settings.busRoot, settings.streamRoot)

def logging : Codec Value Error LogSettings :=
  let level := lib.text.field "level" ({} : LogSettings).level
  let format := lib.text.field "format" ({} : LogSettings).format
  (lib.record "LoggingConfig" (.more level (.last format))).imap
    (fun (level, format) => { level, format })
    fun settings => (settings.level, settings.format)

def acquisition : Codec Value Error RunSettings :=
  let maxSweeps := lib.optionalNumber.field "max_sweeps" ({} : RunSettings).maxSweeps
  let idleBackoff := lib.number.field "idle_backoff_ms" ({} : RunSettings).idleBackoff
  (lib.record "AcquisitionSettings" (.more maxSweeps (.last idleBackoff))).imap
    (fun (maxSweeps, idleBackoff) => { maxSweeps, idleBackoff })
    fun settings => (settings.maxSweeps, settings.idleBackoff)

def settings : Codec Value Error Settings :=
  let paths := lib.paths.field "paths" {}
  let logging := lib.logging.field "logging" {}
  let acquisition := lib.acquisition.field "acquisition" {}
  (lib.record "ZioConfig" (.more paths (.more logging (.last acquisition)))).imap
    (fun (paths, logging, acquisition) => { paths, logging, acquisition })
    fun settings => (settings.paths, settings.logging, settings.acquisition)

end Library

namespace Settings

/-- Whether all settings are the default ones. A root counts as the default if it is the same path,
however it is written. -/
def isDefault (settings : Settings) : Bool :=
  Path.same settings.paths.busRoot ({} : PathSettings).busRoot &&
    Path.same settings.paths.streamRoot ({} : PathSettings).streamRoot &&
    settings.logging = {} && settings.acquisition = {}

end Settings

end DaqBus.Config
