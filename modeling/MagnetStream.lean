import MagnetStream.Client.World
import MagnetStream.Server.World
import MagnetStream.Main
import MagnetStream.Proofs.Client.World
import MagnetStream.Proofs.Text.Cutting
import MagnetStream.Proofs.Url.Origin
import MagnetStream.Proofs.Url.Parts
import MagnetStream.Proofs.Client.Addressing
import MagnetStream.Proofs.Client.Ages
import MagnetStream.Proofs.Client.Confirmation
import MagnetStream.Proofs.Client.Availability
import MagnetStream.Proofs.Client.AvailabilityRequest
import MagnetStream.Proofs.Calendar.Date
import MagnetStream.Proofs.Calendar.Moment
import MagnetStream.Proofs.Json.Display
import MagnetStream.Proofs.Client.Stream
import MagnetStream.Proofs.Client.Token
import MagnetStream.Proofs.Client.Ledger
import MagnetStream.Proofs.Client.TokenHistory
import MagnetStream.Proofs.Client.AvailabilityHistory
import MagnetStream.Proofs.Torrent.Listing
import MagnetStream.Proofs.Client.StreamFailures
import MagnetStream.Proofs.Binary64.Whole
import MagnetStream.Proofs.Client.Deeds
import MagnetStream.Proofs.Client.Polling
import MagnetStream.Proofs.Client.PollBudget
import MagnetStream.Proofs.Client.CacheTrouble
import MagnetStream.Proofs.Client.Secrecy
import MagnetStream.Proofs.Client.Disclosure
import MagnetStream.Proofs.Server.Wiring
import MagnetStream.Proofs.Server.Startup
import MagnetStream.Proofs.Client.Independence
import MagnetStream.Proofs.Client.Eviction
import MagnetStream.Proofs.Client.Reconciliation
import MagnetStream.Proofs.Entries
import MagnetStream.Proofs.Log.Output
import MagnetStream.Proofs.Log.Template
import MagnetStream.Proofs.Config.Layer
import MagnetStream.Proofs.Checked
import MagnetStream.Proofs.Config.Setting
import MagnetStream.Proofs.Config.Precedence
import MagnetStream.Proofs.Config.Soundness
import MagnetStream.Proofs.Config.Bounds
import MagnetStream.Proofs.Config.Directory
import MagnetStream.Proofs.Config.Agreement
import MagnetStream.Proofs.Config.Written
import MagnetStream.Proofs.Config.Exported
import MagnetStream.Proofs.Url.Endpoint
import MagnetStream.Proofs.Client.Creation
import MagnetStream.Proofs.Client.FileChoice
import MagnetStream.Proofs.Client.Bodies
import MagnetStream.Proofs.Http.Header
import MagnetStream.Proofs.Http.Credential
import MagnetStream.Proofs.CommandLine.VariablesFile
import MagnetStream.Proofs.Server.Admission
import MagnetStream.Proofs.Config.Merging
import MagnetStream.Proofs.Client.FailureReports
import MagnetStream.Proofs.Storage.Opening
