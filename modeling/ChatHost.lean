import ChatHost.Main
import ChatHost.Scripted.Document
import ChatHost.Scripted.Downloads
import ChatHost.Scripted.Servers
import ChatHost.Scripted.Sse
import ChatHost.Scripted.Terminal
import ChatHost.Proofs.Act
import ChatHost.Proofs.Host.Books
import ChatHost.Proofs.Host.Traffic
import ChatHost.Proofs.Noted
import ChatHost.Proofs.OrderedMap
import ChatHost.Proofs.Tool.Frame
import ChatHost.Proofs.Host.Turns
import ChatHost.Proofs.Host.Leases
import ChatHost.Proofs.FileTree
import ChatHost.Proofs.Http.Client
import ChatHost.Proofs.Provider.Download
import ChatHost.Proofs.Model.Policy
import ChatHost.Proofs.Model.Select
import ChatHost.Proofs.Decimal.Digits
import ChatHost.Proofs.Json.Scan
import ChatHost.Proofs.Json.RoundTrip
import ChatHost.Proofs.Tool.Call
import ChatHost.Proofs.Registry
import ChatHost.Proofs.Host.Conversation
import ChatHost.Proofs.Provider.Processes
import ChatHost.Proofs.Agree
import ChatHost.Proofs.Provider.Completion
import ChatHost.Proofs.Tool.Outcome
import ChatHost.Proofs.Host.Configure
import ChatHost.Proofs.Host.Alike
import ChatHost.Proofs.Host.Alone
import ChatHost.Proofs.Host.Exits
import ChatHost.Proofs.Tool.Handling
import ChatHost.Proofs.Host.Start
import ChatHost.Proofs.Decimal.Nearest
import ChatHost.Proofs.Decimal.Shortest
import ChatHost.Proofs.Decimal.Bits
import ChatHost.Proofs.Json.Real
import ChatHost.Proofs.Options.RoundTrip
import ChatHost.Proofs.Host.Restart
import ChatHost.Proofs.Host.Adrift
import ChatHost.Proofs.Tool.Search
import ChatHost.Proofs.FileTree.Directories
import ChatHost.Proofs.Http.Exchange
import ChatHost.Proofs.Provider.Finish
import ChatHost.Proofs.Mirror
import ChatHost.Proofs.Text.Encoding
import ChatHost.Proofs.Text.Utf8
import ChatHost.Proofs.Url.Percent
import ChatHost.Proofs.Url.Split
import ChatHost.Proofs.Http.Refusal
import ChatHost.Proofs.Model.Written
import ChatHost.Proofs.Provider.Refusal
import ChatHost.Proofs.Provider.Sharing
import ChatHost.Proofs.Provider.Stages
import ChatHost.Proofs.Provider.Pauses
import ChatHost.Proofs.Path
import ChatHost.Proofs.Settings.Layers
import ChatHost.Proofs.Settings.Restore
import ChatHost.Proofs.Settings.Unusable
import ChatHost.Proofs.Host.Sweep
import ChatHost.Proofs.Logging
import ChatHost.Proofs.Text.Template
import ChatHost.Proofs.Tool.Prompt
import ChatHost.Proofs.Host.Naming
import ChatHost.Proofs.Settings.Overrides
import ChatHost.Proofs.Cli.Overrides
import ChatHost.Proofs.Cli.Dialogue
import ChatHost.Proofs.Host.Whole
import ChatHost.Proofs.Cli.Chat
import ChatHost.Proofs.Provider.Progress
import ChatHost.Proofs.Settings.Variables
