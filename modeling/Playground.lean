import Playground.Base64
import Playground.Blake3
import Playground.Cli.Command
import Playground.Cli.Grammar
import Playground.Cli.Help
import Playground.Cli.Job
import Playground.Cli.Run
import Playground.Cli.SavedState
import Playground.Cli.Settings
import Playground.Cli.Workspace
import Playground.Decimal.Binary64
import Playground.Decimal.Shortest
import Playground.Disk
import Playground.Envelope
import Playground.Exchange.Basic
import Playground.Exchange.Gated
import Playground.Exchange.Remote
import Playground.Exchange.Scripted
import Playground.Gzip.Bits
import Playground.Gzip.Checksum
import Playground.Gzip.Deflate
import Playground.Gzip.Huffman
import Playground.Gzip.Inflate
import Playground.Gzip.Member
import Playground.Handle
import Playground.History
import Playground.Json.Basic
import Playground.Json.Form
import Playground.Json.Numeral
import Playground.Json.Pretty
import Playground.Json.Printer
import Playground.Json.Written
import Playground.Keyed
import Playground.Linker
import Playground.Location
import Playground.Main
import Playground.Navigator
import Playground.Options.Basic
import Playground.Options.Reconcile
import Playground.Project.Basic
import Playground.Proofs.Base64
import Playground.Proofs.Exchange
import Playground.Proofs.Gzip.Tokens
import Playground.Proofs.Handle
import Playground.Proofs.Json.RoundTrip
import Playground.Proofs.Keyed
import Playground.Proofs.Options
import Playground.Proofs.Project.Edit
import Playground.Proofs.Project.Share
import Playground.Proofs.Session.ActiveHandle
import Playground.Proofs.Session.Changes
import Playground.Proofs.Session.Frame
import Playground.Proofs.Session.Generation
import Playground.Proofs.Session.Interleaving
import Playground.Proofs.Session.SharePath
import Playground.Proofs.Session.Turns
import Playground.Proofs.Url.PagePath
import Playground.Session.Basic
import Playground.Session.Calls
import Playground.Session.Direct
import Playground.Share.Config
import Playground.Share.Database
import Playground.Share.Hosted
import Playground.Share.Http
import Playground.Share.Launch
import Playground.Share.Service
import Playground.Share.Storage
import Playground.Source
import Playground.Storage.Backend
import Playground.Storage.Cell
import Playground.Storage.Directory
import Playground.Storage.Memory
import Playground.Text.Blank
import Playground.Text.Hex
import Playground.Text.Printable
import Playground.Text.Quoted
import Playground.Text.Utf8
import Playground.Token
import Playground.Toml.Basic
import Playground.Toml.Literal
import Playground.Toml.Printer
import Playground.Toml.Reader
import Playground.Toml.Scalar
import Playground.Toml.Section
import Playground.Unicode.CombiningClass
import Playground.Unicode.Composition
import Playground.Unicode.Decomposition
import Playground.Unicode.Direction
import Playground.Unicode.Joining
import Playground.Unicode.Mark
import Playground.Unicode.Ranges
import Playground.Unicode.Unassigned
import Playground.Url.Basic
import Playground.Url.Domain
import Playground.Url.Drive
import Playground.Url.Folding
import Playground.Url.Form
import Playground.Url.Host
import Playground.Url.Label
import Playground.Url.Percent
import Playground.Url.Punycode
import Playground.Url.Reader
import Playground.Url.Spelling
import Playground.Proofs.Gzip.Stream
import Playground.Proofs.Gzip.Member
import Playground.Proofs.Token
import Playground.Json.Equality
import Playground.Options.Trial
import Playground.Project.InPlace
import Playground.Project.Untitled
import Playground.Proofs.Options.Schema
import Playground.Proofs.Options.Takeover
import Playground.Proofs.Options.Trial
import Playground.Proofs.Project.WellFormed
import Playground.Proofs.Storage.Kept
import Playground.Proofs.Session.Watched
import Playground.Proofs.Session.Durability
import Playground.Proofs.Session.Lifecycle
import Playground.Proofs.Text.Utf8
import Playground.Proofs.Url.Form
import Playground.Proofs.Share.Request
import Playground.Proofs.Share.Interleaving
import Playground.Proofs.Share.Immutability
import Playground.Proofs.Permalink
import Playground.Proofs.Cli.Calls
import Playground.Proofs.Cli.Edits
import Playground.Proofs.Cli.Closing
import Playground.Proofs.Cli.Resume
import Playground.Proofs.Cli.Access
import Playground.Proofs.Session.Failures
import Playground.Proofs.Session.Batch
import Playground.Proofs.Project.Commits
import Playground.Proofs.Project.Load
import Playground.Proofs.Storage.Seeding
import Playground.Proofs.Session.Faults
import Playground.Proofs.Salvage.Survivors
import Playground.Proofs.Project.Refusal
import Playground.Proofs.Token.Untrusted
import Playground.Proofs.Options.Merge
import Playground.Proofs.Project.Selection
import Playground.Proofs.Share.Limit
import Playground.Proofs.Share.Agreement
import Playground.Proofs.History
import Playground.Proofs.Cli.Import
import Playground.Proofs.Share.Metered
import Playground.Proofs.Share.Accounting
import Playground.Proofs.Disk.Made
import Playground.Proofs.Cli.SavedSettings
import Playground.Navigator.InPlace
import Playground.Proofs.Navigator
import Playground.Proofs.Url.HandlePath
import Playground.Proofs.Exchange.Remote
import Playground.Proofs.Text.Hex
import Playground.Proofs.Exchange.Scripted
import Playground.Proofs.Project.Untitled
