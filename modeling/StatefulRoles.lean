import StatefulRoles.Entries
import StatefulRoles.Log
import StatefulRoles.Trace
import StatefulRoles.Text.Blank
import StatefulRoles.Text.Case
import StatefulRoles.Text.Digit
import StatefulRoles.Text.Printable
import StatefulRoles.Text.Quoted
import StatefulRoles.Text.Utf8
import StatefulRoles.Number.Rounding
import StatefulRoles.Number.Decimal
import StatefulRoles.Number.Numeral
import StatefulRoles.Number.Binary64
import StatefulRoles.Json
import StatefulRoles.Json.Parser
import StatefulRoles.Quantity
import StatefulRoles.Schema
import StatefulRoles.Settings.EnvFile
import StatefulRoles.Settings
import StatefulRoles.Cluster.Role
import StatefulRoles.Cluster
import StatefulRoles.App
import StatefulRoles.ObjectName
import StatefulRoles.Directory
import StatefulRoles.Directory.Defaults
import StatefulRoles.Directory.Resolution
import StatefulRoles.Shell.Word
import StatefulRoles.Script
import StatefulRoles.Environment
import StatefulRoles.Manifest
import StatefulRoles.Manifest.Written
import StatefulRoles.Mounting
import StatefulRoles.Metadata
import StatefulRoles.ApiError
import StatefulRoles.Fault
import StatefulRoles.Catalog
import StatefulRoles.Catalog.Registry
import StatefulRoles.Effect
import StatefulRoles.Synthesis
import StatefulRoles.Retry
import StatefulRoles.Session
import StatefulRoles.Recorder
import StatefulRoles.Manager
import StatefulRoles.Proofs.Directory.Components
import StatefulRoles.Proofs.Directory.Resolution
import StatefulRoles.Proofs.Directory.Verdicts
import StatefulRoles.Proofs.Directory.Stability
import StatefulRoles.Proofs.Directory.NormalForm
import StatefulRoles.Proofs.Directory.Order
import StatefulRoles.Proofs.Synthesis.Gathering
import StatefulRoles.Proofs.Synthesis.Volumes
import StatefulRoles.Proofs.Shell.Commands
import StatefulRoles.Proofs.Script
import StatefulRoles.Proofs.Synthesis.Persistence
import StatefulRoles.Proofs.Json.Depth
import StatefulRoles.Proofs.Retry
import StatefulRoles.Proofs.Session
import StatefulRoles.Proofs.Manager.Reporting
import StatefulRoles.Proofs.Manager.Scaling
import StatefulRoles.Proofs.Synthesis.Literal
import StatefulRoles.Proofs.Synthesis.Stages
import StatefulRoles.Proofs.Manager.Creating
import StatefulRoles.Proofs.Server
import StatefulRoles.Proofs.Manager.Contention
import StatefulRoles.Proofs.ObjectName.Label
import StatefulRoles.Proofs.ObjectName.Words
import StatefulRoles.Proofs.ObjectName.Compliance
import StatefulRoles.Proofs.Schema.Faithful
import StatefulRoles.Proofs.Schema.Models
import StatefulRoles.Proofs.Manager.SingleAttempt
import StatefulRoles.Proofs.Manager.Operation
import StatefulRoles.Proofs.Manager.Fleet
import StatefulRoles.Proofs.Catalog.Registry
import StatefulRoles.Proofs.Manager.Events
import StatefulRoles.Proofs.Synthesis.Buildable
import StatefulRoles.Proofs.Synthesis.MountPaths
import StatefulRoles.Proofs.Text.Utf8
import StatefulRoles.Proofs.Json.Grammar
import StatefulRoles.Proofs.ApiError
import StatefulRoles.Proofs.Retry.Attempts
import StatefulRoles.Proofs.Number.Decimal
import StatefulRoles.Proofs.Quantity
import StatefulRoles.Proofs.Environment
import StatefulRoles.Proofs.Synthesis.Interference
import StatefulRoles.Proofs.Shell.DoubleQuotes
import StatefulRoles.Proofs.Script.Startup
import StatefulRoles.Proofs.Json.Place
import StatefulRoles.Proofs.Json.Patch
import StatefulRoles.Proofs.Manager.Ownership
import StatefulRoles.Proofs.Schema.Outcomes
import StatefulRoles.Proofs.Schema.Tracks
import StatefulRoles.Proofs.Number.Overflow
import StatefulRoles.Proofs.Quantity.Escapes
import StatefulRoles.Proofs.Schema.Sizes
