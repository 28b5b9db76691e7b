import Preflight.Cli.Commands
import Preflight.Cli.Grammar
import Preflight.Cli.Help
import Preflight.Cli.Parse
import Preflight.Cli.Program
import Preflight.Cli.Show
import Preflight.Config.Assemble
import Preflight.Config.Coerce
import Preflight.Config.File
import Preflight.Config.Layers
import Preflight.Decimal.Format
import Preflight.Decimal.Integer
import Preflight.Decimal.Read
import Preflight.Decimal.Shortest
import Preflight.Environ
import Preflight.Failure
import Preflight.Files
import Preflight.Files.Action
import Preflight.Files.Changes
import Preflight.Install
import Preflight.Json.Read
import Preflight.Json.Write
import Preflight.Log.Daily
import Preflight.Log.Level
import Preflight.Log.Sink
import Preflight.Main
import Preflight.Memory
import Preflight.Notice
import Preflight.Report
import Preflight.Schema
import Preflight.Startup
import Preflight.Tasks
import Preflight.Telemetry
import Preflight.Template.Marker
import Preflight.Template.Shipped
import Preflight.Template.Sync
import Preflight.Text.Base64
import Preflight.Text.Blank
import Preflight.Text.Cased
import Preflight.Text.Digit
import Preflight.Text.Encoding
import Preflight.Text.Lone
import Preflight.Text.Lower
import Preflight.Text.Order
import Preflight.Text.Pattern
import Preflight.Text.Printable
import Preflight.Text.Ranges
import Preflight.Time.Civil
import Preflight.Time.Iso
import Preflight.Update
import Preflight.Value
import Preflight.Value.Display
import Preflight.Version
import Preflight.Yaml.Emit
import Preflight.Yaml.Event
import Preflight.Yaml.Load
import Preflight.Yaml.Mark
import Preflight.Yaml.Node
import Preflight.Yaml.Tag
import Preflight.Yaml.Token
import Preflight.Yaml.Token.Scan
import Preflight.Proofs.Files.Path
import Preflight.Proofs.Files.Lookup
import Preflight.Proofs.Files.Change
import Preflight.Proofs.Files.Run
import Preflight.Proofs.Files.Made
import Preflight.Proofs.Template.Source
import Preflight.Proofs.Template.Convergence
import Preflight.Proofs.Template.Writes
import Preflight.Proofs.Config.Table
import Preflight.Proofs.Yaml.Document
import Preflight.Proofs.Config.FileSettings
import Preflight.Proofs.Config.Assemble
import Preflight.Proofs.Config.Layering
import Preflight.Proofs.Config.Reporting
import Preflight.Proofs.Config.TypedReads
import Preflight.Proofs.Log.Level
import Preflight.Proofs.Startup.Run
import Preflight.Proofs.Startup.LogLevel
import Preflight.Proofs.Startup.Directories
import Preflight.Proofs.Startup.Failure
import Preflight.Proofs.Config.Raising
import Preflight.Proofs.Config.MergedView
import Preflight.Proofs.Config.Builder
import Preflight.Proofs.Text.Utf8
import Preflight.Proofs.Log.Delivery
import Preflight.Proofs.Time.Calendar
import Preflight.Proofs.Time.IsoText
import Preflight.Proofs.Json.Flat
import Preflight.Proofs.Update.Throttle
import Preflight.Proofs.Update.StateFile
import Preflight.Proofs.Version.Order
import Preflight.Proofs.Update.Releases
import Preflight.Proofs.Time.IsoOffset
import Preflight.Proofs.Update.RoundTrip
import Preflight.Proofs.Report
import Preflight.Proofs.Tasks
import Preflight.Proofs.Text.Sorted
import Preflight.Proofs.Files.Remove
import Preflight.Proofs.Log.Prune
import Preflight.Proofs.Config.Loading
import Preflight.Proofs.Log.Names
import Preflight.Proofs.Template.Marker
import Preflight.Proofs.Startup.Memory
