import RadiusSentry.Address.Endpoint
import RadiusSentry.Address.Ipv4
import RadiusSentry.Address.Ipv6
import RadiusSentry.Attribute.Basic
import RadiusSentry.Attribute.Kind
import RadiusSentry.Audit.Calendar
import RadiusSentry.Audit.Entry
import RadiusSentry.Audit.Fields
import RadiusSentry.Audit.Log
import RadiusSentry.Capability
import RadiusSentry.CommandLine
import RadiusSentry.Config.Basic
import RadiusSentry.Config.Error
import RadiusSentry.Config.Text
import RadiusSentry.Digest.Hmac
import RadiusSentry.Digest.Md5
import RadiusSentry.Event
import RadiusSentry.Gate.Basic
import RadiusSentry.Json.Basic
import RadiusSentry.Json.Printer
import RadiusSentry.Json.Reader
import RadiusSentry.Json.Token
import RadiusSentry.Main
import RadiusSentry.Octets
import RadiusSentry.Packet.Authenticator
import RadiusSentry.Packet.Basic
import RadiusSentry.Packet.Code
import RadiusSentry.Packet.Proof
import RadiusSentry.Plugin.AllowList
import RadiusSentry.Plugin.Dump
import RadiusSentry.Plugin.Error
import RadiusSentry.Plugin.Recorder
import RadiusSentry.Plugin.Setup
import RadiusSentry.Plugin.World
import RadiusSentry.Proofs.AllowList.Admission
import RadiusSentry.Proofs.AllowList.Clean
import RadiusSentry.Proofs.AllowList.Keys
import RadiusSentry.Proofs.AllowList.Memory
import RadiusSentry.Proofs.AllowList.Reports
import RadiusSentry.Proofs.Audit.Days
import RadiusSentry.Proofs.Audit.Entries
import RadiusSentry.Proofs.Audit.Fields
import RadiusSentry.Proofs.Audit.Lines
import RadiusSentry.Proofs.CommandLine.Arguments
import RadiusSentry.Proofs.CommandLine.Files
import RadiusSentry.Proofs.Config.Partial
import RadiusSentry.Proofs.Config.RoundTrip
import RadiusSentry.Proofs.Config.Startable
import RadiusSentry.Proofs.Dump.Coverage
import RadiusSentry.Proofs.Dump.Redaction
import RadiusSentry.Proofs.Gate.Calls
import RadiusSentry.Proofs.Gate.Dispatch
import RadiusSentry.Proofs.Gate.Padding
import RadiusSentry.Proofs.Gate.Readings
import RadiusSentry.Proofs.Gate.Registrations
import RadiusSentry.Proofs.Gate.Secrecy
import RadiusSentry.Proofs.Gate.Secrets
import RadiusSentry.Proofs.Gate.Verification
import RadiusSentry.Proofs.Gate.Visits
import RadiusSentry.Proofs.Json.Literals
import RadiusSentry.Proofs.Json.RoundTrip
import RadiusSentry.Proofs.Json.Tokens
import RadiusSentry.Proofs.Plugin.Composition
import RadiusSentry.Proofs.Queue.Line
import RadiusSentry.Proofs.Queue.Order
import RadiusSentry.Proofs.Reject.Layout
import RadiusSentry.Proofs.Reject.Length
import RadiusSentry.Proofs.Reject.Signature
import RadiusSentry.Proofs.Reject.Soundness
import RadiusSentry.Proofs.Relay.Gating
import RadiusSentry.Proofs.Relay.Pending
import RadiusSentry.Proofs.Relay.Rejects
import RadiusSentry.Proofs.Relay.Sockets
import RadiusSentry.Proofs.Relay.Steps
import RadiusSentry.Proofs.Relay.Stranded
import RadiusSentry.Proofs.Secrets.Candidates
import RadiusSentry.Proofs.Secrets.Files
import RadiusSentry.Proofs.Secrets.Spacing
import RadiusSentry.Proofs.Secrets.Twins
import RadiusSentry.Proofs.Storage.Grounded
import RadiusSentry.Proofs.Storage.Paths
import RadiusSentry.Proofs.Storage.Siblings
import RadiusSentry.Proofs.Text.Blanks
import RadiusSentry.Proofs.Text.Case
import RadiusSentry.Proofs.Text.Digits
import RadiusSentry.Proofs.Text.Words
import RadiusSentry.Proofs.Wire.Attributes
import RadiusSentry.Proofs.Wire.Digests
import RadiusSentry.Proofs.Wire.Offsets
import RadiusSentry.Proofs.Wire.Packets
import RadiusSentry.Proofs.Wire.Signing
import RadiusSentry.Proofs.Wire.Windows
import RadiusSentry.Queue
import RadiusSentry.Registry
import RadiusSentry.Reject
import RadiusSentry.Relay.Basic
import RadiusSentry.Relay.Setup
import RadiusSentry.Request
import RadiusSentry.Secrets.File
import RadiusSentry.Secrets.Store
import RadiusSentry.Storage.FileTree
import RadiusSentry.Storage.Path
import RadiusSentry.Text.CaseTable
import RadiusSentry.Text.EscapeTable
import RadiusSentry.Text.Lines
import RadiusSentry.Text.Lowercase
import RadiusSentry.Text.Quoted
import RadiusSentry.Text.Split
