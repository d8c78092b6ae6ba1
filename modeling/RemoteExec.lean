import RemoteExec.Bytes
import RemoteExec.Bytes.Hex
import RemoteExec.Bytes.Replace
import RemoteExec.Client.Authentication
import RemoteExec.Client.Channel
import RemoteExec.Client.Commands
import RemoteExec.Client.Connect
import RemoteExec.Client.Files
import RemoteExec.Client.Library
import RemoteExec.Client.Negotiation
import RemoteExec.Client.Prompt
import RemoteExec.Client.Server
import RemoteExec.Client.Session
import RemoteExec.Client.State
import RemoteExec.Client.Target
import RemoteExec.ClientConfig
import RemoteExec.Command.Result
import RemoteExec.CommandLine.Arguments
import RemoteExec.CommandLine.Config
import RemoteExec.CommandLine.Help
import RemoteExec.CommandLine.Parser
import RemoteExec.CommandLine.Program
import RemoteExec.CommandLine.Usage
import RemoteExec.Crypto.Aes
import RemoteExec.Crypto.Base64
import RemoteExec.Crypto.Blocks
import RemoteExec.Crypto.Blowfish
import RemoteExec.Crypto.KeyStretch
import RemoteExec.Crypto.Roots
import RemoteExec.Crypto.Sha256
import RemoteExec.Crypto.Sha512
import RemoteExec.Decimal.Binary64
import RemoteExec.Decimal.Layout
import RemoteExec.Decimal.Reader
import RemoteExec.Decimal.Shortest
import RemoteExec.Duration
import RemoteExec.Environment
import RemoteExec.Escalation
import RemoteExec.Escalation.Sudo
import RemoteExec.Failure
import RemoteExec.Files.FileSystem
import RemoteExec.Files.Path
import RemoteExec.HostKeys.Gate
import RemoteExec.HostKeys.KnownHosts
import RemoteExec.HostKeys.Policy
import RemoteExec.Identity
import RemoteExec.Json.Printer
import RemoteExec.Json.Reader
import RemoteExec.Json.Value
import RemoteExec.Keys.Algorithm
import RemoteExec.Keys.PrivateKey
import RemoteExec.Keys.PublicKey
import RemoteExec.Log
import RemoteExec.Main
import RemoteExec.Options
import RemoteExec.Options.Overview
import RemoteExec.Proofs.Client.Closing
import RemoteExec.Proofs.Client.Copying
import RemoteExec.Proofs.Client.Entering
import RemoteExec.Proofs.Client.Listening
import RemoteExec.Proofs.Client.Questioning
import RemoteExec.Proofs.Client.Recording
import RemoteExec.Proofs.Client.Statuses
import RemoteExec.Proofs.Client.Targeting
import RemoteExec.Proofs.ClientConfig.Matching
import RemoteExec.Proofs.ClientConfig.Precedence
import RemoteExec.Proofs.ClientConfig.Spelling
import RemoteExec.Proofs.CommandLine.Exiting
import RemoteExec.Proofs.CommandLine.Layering
import RemoteExec.Proofs.CommandLine.Unset
import RemoteExec.Proofs.Escalation.Lines
import RemoteExec.Proofs.Escalation.Scanning
import RemoteExec.Proofs.Escalation.Wrapping
import RemoteExec.Proofs.Files.Appending
import RemoteExec.Proofs.Files.Hiding
import RemoteExec.Proofs.Files.Writing
import RemoteExec.Proofs.HostKeys.Additions
import RemoteExec.Proofs.HostKeys.Admission
import RemoteExec.Proofs.HostKeys.Answers
import RemoteExec.Proofs.HostKeys.Reloading
import RemoteExec.Proofs.HostKeys.Saving
import RemoteExec.Proofs.HostKeys.Store
import RemoteExec.Proofs.Json.Objects
import RemoteExec.Proofs.Options.Refusals
import RemoteExec.Proofs.Proxy.Placeholders
import RemoteExec.Proofs.Proxy.Settings
import RemoteExec.Proofs.Registry.Laws
import RemoteExec.Proofs.Registry.Moves
import RemoteExec.Proofs.Registry.Order
import RemoteExec.Proofs.Registry.Serial
import RemoteExec.Proofs.Registry.Turns
import RemoteExec.Proofs.Registry.Visible
import RemoteExec.Proofs.Scp.Arrival
import RemoteExec.Proofs.Scp.Header
import RemoteExec.Proofs.Scp.Reception
import RemoteExec.Proofs.Scp.Sending
import RemoteExec.Proofs.Session.Blinding
import RemoteExec.Proofs.Session.Closing
import RemoteExec.Proofs.Session.Concealing
import RemoteExec.Proofs.Session.Connecting
import RemoteExec.Proofs.Session.Disposal
import RemoteExec.Proofs.Session.Failing
import RemoteExec.Proofs.Session.Forgetting
import RemoteExec.Proofs.Session.Frames
import RemoteExec.Proofs.Session.Handles
import RemoteExec.Proofs.Session.Holding
import RemoteExec.Proofs.Session.Interleaving
import RemoteExec.Proofs.Session.Memory
import RemoteExec.Proofs.Session.Negotiation
import RemoteExec.Proofs.Session.Ownership
import RemoteExec.Proofs.Session.Places
import RemoteExec.Proofs.Session.Preparing
import RemoteExec.Proofs.Session.Record
import RemoteExec.Proofs.Session.Reporting
import RemoteExec.Proofs.Session.Reuse
import RemoteExec.Proofs.Session.Runs
import RemoteExec.Proofs.Session.Secrets
import RemoteExec.Proofs.Session.Sharing
import RemoteExec.Proofs.Session.States
import RemoteExec.Proofs.Session.Staying
import RemoteExec.Proofs.Session.Steps
import RemoteExec.Proofs.Session.Watching
import RemoteExec.Proofs.Text.BareWords
import RemoteExec.Proofs.Text.Decoding
import RemoteExec.Proofs.Text.Fields
import RemoteExec.Proofs.Text.Lines
import RemoteExec.Proofs.Text.Lowercase
import RemoteExec.Proofs.Text.ShellWords
import RemoteExec.Proofs.Text.Utf8
import RemoteExec.Proxy.Command
import RemoteExec.Proxy.Placeholders
import RemoteExec.Proxy.Shell
import RemoteExec.Registry.Basic
import RemoteExec.Registry.Makers
import RemoteExec.Registry.Race
import RemoteExec.Registry.Traffic
import RemoteExec.Scp.Header
import RemoteExec.Scp.Transfer
import RemoteExec.Scp.Wire
import RemoteExec.ScriptedServer.Basic
import RemoteExec.ScriptedServer.Exchange
import RemoteExec.ScriptedServer.Plan
import RemoteExec.Session.Connection
import RemoteExec.Session.Exec
import RemoteExec.Session.Library
import RemoteExec.Session.Memory
import RemoteExec.Session.Record
import RemoteExec.Session.Request
import RemoteExec.Session.Transfer
import RemoteExec.Session.Turns
import RemoteExec.Session.World
import RemoteExec.Text.Blank
import RemoteExec.Text.Inspect
import RemoteExec.Text.Lowercase
import RemoteExec.Text.Printable
import RemoteExec.Text.ShellWords
import RemoteExec.Text.Utf8Fault
import RemoteExec.Transfer.Protocol
import RemoteExec.Version
