import DaqBus.Acquisition
import DaqBus.Block.Basic
import DaqBus.Block.Samples
import DaqBus.Block.Transfer
import DaqBus.Bus.Backend
import DaqBus.Bus.Basic
import DaqBus.Bus.Counters
import DaqBus.Bus.Error
import DaqBus.Bus.Event
import DaqBus.Bytes.LittleEndian
import DaqBus.Config.Check
import DaqBus.Config.Library
import DaqBus.Config.Load
import DaqBus.Config.Settings
import DaqBus.Control.Basic
import DaqBus.Control.Codec
import DaqBus.Control.Flags
import DaqBus.Control.Layout
import DaqBus.Errno.Basic
import DaqBus.Errno.Messages
import DaqBus.External.Binary64
import DaqBus.External.Environment
import DaqBus.External.LogFilter
import DaqBus.External.LogTrial
import DaqBus.External.Pattern.Escape
import DaqBus.External.Pattern.Expression
import DaqBus.External.Pattern.Set
import DaqBus.External.Pattern.Switches
import DaqBus.External.Settings
import DaqBus.External.Toml.Document
import DaqBus.External.Toml.Parser
import DaqBus.External.Toml.Scalar
import DaqBus.External.Toml.Text
import DaqBus.External.Value
import DaqBus.Files.Access
import DaqBus.Files.Basic
import DaqBus.Files.Edit
import DaqBus.Files.Path
import DaqBus.Files.RawPath
import DaqBus.Files.Stream
import DaqBus.Kernel.Backend
import DaqBus.Kernel.Basic
import DaqBus.Kernel.Scan
import DaqBus.Logging.Format
import DaqBus.Logging.Layer
import DaqBus.Logging.Level
import DaqBus.Logging.Options
import DaqBus.Memory.Backend
import DaqBus.Memory.Basic
import DaqBus.Memory.Blueprint
import DaqBus.Record.Basic
import DaqBus.Stream.Basic
import DaqBus.Stream.Lens
import DaqBus.Stream.Queue
import DaqBus.Stream.Script
import DaqBus.Table
import DaqBus.Text.Alphanumeric
import DaqBus.Text.Blank
import DaqBus.Text.Case
import DaqBus.Text.Literal
import DaqBus.Text.Numeral
import DaqBus.Text.Plain
import DaqBus.Text.Quoted
import DaqBus.Text.Runs
import DaqBus.Text.Scanner
import DaqBus.Text.Utf8
import DaqBus.Tree.Attribute
import DaqBus.Tree.Basic
import DaqBus.Tree.Channel
import DaqBus.Tree.Lifetime
import DaqBus.Tree.Node
import DaqBus.Tree.Show
import DaqBus.Proofs.Control.RoundTrip
import DaqBus.Proofs.Effect
import DaqBus.Proofs.Stream.Queue
import DaqBus.Proofs.Memory.Waiting
import DaqBus.Proofs.Channel.Connected
import DaqBus.Proofs.Block.RoundTrip
import DaqBus.Proofs.Channel.Pairing
import DaqBus.Proofs.Channel.ReadPaths
import DaqBus.Proofs.Channel.Loopback
import DaqBus.Proofs.Channel.Opened
import DaqBus.Proofs.Acquisition.Rounds
import DaqBus.Proofs.Acquisition.Queued
import DaqBus.Proofs.Acquisition.Sweeps
import DaqBus.Proofs.Acquisition.Sequence
import DaqBus.Proofs.Files.Walk
import DaqBus.Proofs.Text.Blank
import DaqBus.Proofs.Text.ByteOrder
import DaqBus.Proofs.Kernel.Checks
import DaqBus.Proofs.Kernel.Answers
import DaqBus.Proofs.Kernel.Scan
import DaqBus.Proofs.Kernel.Opening
import DaqBus.Proofs.Kernel.IndexOrder
import DaqBus.Proofs.Text.Decoding
import DaqBus.Proofs.Text.Numeral
import DaqBus.Proofs.Memory.Registers
import DaqBus.Proofs.Tree.Handles
import DaqBus.Proofs.Tree.Access
import DaqBus.Proofs.Memory.Access
import DaqBus.Proofs.Memory.Opening
import DaqBus.Proofs.Memory.Change
import DaqBus.Proofs.World.Basic
import DaqBus.Proofs.World.Release
import DaqBus.Proofs.World.Closed
import DaqBus.Proofs.Text.Register
import DaqBus.Proofs.World.LiveFiles
import DaqBus.Proofs.Files.Content
import DaqBus.Proofs.Memory.Switch
import DaqBus.Proofs.Files.Look
import DaqBus.Proofs.Kernel.Heads
import DaqBus.Proofs.Kernel.Switch
import DaqBus.Proofs.Switches
import DaqBus.Proofs.Control.Restoring
import DaqBus.Proofs.Stream.Bounded
import DaqBus.Proofs.Channel.Outcomes
import DaqBus.Proofs.Memory.FirstFiles
import DaqBus.Proofs.Memory.Registered
import DaqBus.Proofs.Tree.Mirror
import DaqBus.Proofs.Block.Restoring
import DaqBus.Proofs.Channel.Interleaving
import DaqBus.Proofs.Block.Transfer
import DaqBus.Proofs.Block.Positions
import DaqBus.Proofs.Control.Fields
import DaqBus.Proofs.Stream.Pieces
import DaqBus.Proofs.Channel.Pieces
import DaqBus.Proofs.Stream.Accepting
import DaqBus.Proofs.Channel.Emission
import DaqBus.Proofs.Stream.Watched
import DaqBus.Proofs.World.Wired
import DaqBus.Proofs.Kernel.Handles
import DaqBus.Proofs.Channel.OneWay
import DaqBus.Proofs.Channel.FailFast
import DaqBus.Proofs.Acquisition.Ending
import DaqBus.Proofs.Memory.Flush
import DaqBus.Proofs.Channel.Alarms
import DaqBus.Proofs.Channel.Building
import DaqBus.Proofs.Kernel.Listed
import DaqBus.Proofs.Text.Lines
import DaqBus.Proofs.Kernel.ModuleLists
import DaqBus.Proofs.Text.Cutting
import DaqBus.Proofs.Control.Names
import DaqBus.Proofs.Alike
import DaqBus.Proofs.Memory.Listing
import DaqBus.Proofs.Kernel.Places
import DaqBus.Proofs.Kernel.DeviceList
import DaqBus.Proofs.Memory.Names
import DaqBus.Proofs.Memory.Scope
import DaqBus.Proofs.Memory.Sight
import DaqBus.Proofs.World.Turns
import DaqBus.Proofs.World.Isolation
import DaqBus.Proofs.Control.Selection
import DaqBus.Proofs.Logging.Agreement
import DaqBus.Proofs.Config.Laws
import DaqBus.Proofs.Config.Merging
import DaqBus.Proofs.Config.Variables
import DaqBus.Proofs.External.Merging
import DaqBus.Proofs.External.Lawful
import DaqBus.Proofs.Config.Layering
import DaqBus.Proofs.Memory.StreamEnds
import DaqBus.Proofs.Kernel.Refusal
