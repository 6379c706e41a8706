import Tunnel.Backoff
import Tunnel.Base64
import Tunnel.Channel
import Tunnel.Channel.Move
import Tunnel.Channel.Run
import Tunnel.Channel.Step
import Tunnel.Channel.Work
import Tunnel.CommandLine
import Tunnel.CommandLine.Grammar
import Tunnel.CommandLine.Notice
import Tunnel.CommandLine.Page
import Tunnel.CommandLine.Reader
import Tunnel.Connector
import Tunnel.Decimal
import Tunnel.Dispatch
import Tunnel.Dispatch.Board
import Tunnel.Dispatch.Tally
import Tunnel.Duration
import Tunnel.Execution
import Tunnel.Failure
import Tunnel.Files.Path
import Tunnel.Files.Tree
import Tunnel.Handshake
import Tunnel.Headers
import Tunnel.Headers.Wire
import Tunnel.Health
import Tunnel.Http
import Tunnel.Json.Basic
import Tunnel.Json.Cursor
import Tunnel.Json.Error
import Tunnel.Json.Number
import Tunnel.Json.Printer
import Tunnel.Json.Reader
import Tunnel.Json.Text
import Tunnel.Link
import Tunnel.Main
import Tunnel.Message
import Tunnel.Message.Decode
import Tunnel.Message.Fields
import Tunnel.Message.Target
import Tunnel.Outbound
import Tunnel.Pairing
import Tunnel.Pairing.Document
import Tunnel.Pairing.Store
import Tunnel.Proofs.Backoff
import Tunnel.Proofs.Base64
import Tunnel.Proofs.Base64.Canonical
import Tunnel.Proofs.Channel.Chronicle
import Tunnel.Proofs.Channel.Close
import Tunnel.Proofs.Channel.Coherence
import Tunnel.Proofs.Channel.Connectivity
import Tunnel.Proofs.Channel.Deed
import Tunnel.Proofs.Channel.Delivery
import Tunnel.Proofs.Channel.Effect
import Tunnel.Proofs.Channel.Event
import Tunnel.Proofs.Channel.Exit
import Tunnel.Proofs.Channel.Finality
import Tunnel.Proofs.Channel.Heartbeat
import Tunnel.Proofs.Channel.Inbound
import Tunnel.Proofs.Channel.Liveness
import Tunnel.Proofs.Channel.Log
import Tunnel.Proofs.Channel.Onward
import Tunnel.Proofs.Channel.Pace
import Tunnel.Proofs.Channel.Reach
import Tunnel.Proofs.Channel.Reconnect
import Tunnel.Proofs.Channel.Rest
import Tunnel.Proofs.Channel.Timers
import Tunnel.Proofs.Channel.Token
import Tunnel.Proofs.Connector.Answer
import Tunnel.Proofs.Connector.Attribution
import Tunnel.Proofs.Connector.Orderly
import Tunnel.Proofs.Connector.Reach
import Tunnel.Proofs.Connector.Response
import Tunnel.Proofs.Connector.Rest
import Tunnel.Proofs.Decimal
import Tunnel.Proofs.Dispatch
import Tunnel.Proofs.Dispatch.Capacity
import Tunnel.Proofs.Dispatch.Event
import Tunnel.Proofs.Dispatch.Lasting
import Tunnel.Proofs.Dispatch.Line
import Tunnel.Proofs.Dispatch.LinkEnd
import Tunnel.Proofs.Dispatch.Order
import Tunnel.Proofs.Dispatch.Parting
import Tunnel.Proofs.Dispatch.Pending
import Tunnel.Proofs.Dispatch.Permits
import Tunnel.Proofs.Dispatch.Settle
import Tunnel.Proofs.Dispatch.Tally
import Tunnel.Proofs.Execution
import Tunnel.Proofs.Execution.Delay
import Tunnel.Proofs.Failure
import Tunnel.Proofs.Field
import Tunnel.Proofs.Files
import Tunnel.Proofs.Files.Directories
import Tunnel.Proofs.Files.Way
import Tunnel.Proofs.Float.Arithmetic
import Tunnel.Proofs.Float.Rounding
import Tunnel.Proofs.Handshake
import Tunnel.Proofs.Headers
import Tunnel.Proofs.Headers.Document
import Tunnel.Proofs.Headers.Grouping
import Tunnel.Proofs.Headers.Response
import Tunnel.Proofs.Health
import Tunnel.Proofs.Json.Decimal
import Tunnel.Proofs.Json.Forward
import Tunnel.Proofs.Json.Integral
import Tunnel.Proofs.Json.Number
import Tunnel.Proofs.Json.Numeral
import Tunnel.Proofs.Json.Pretty
import Tunnel.Proofs.Json.Real
import Tunnel.Proofs.Json.RoundTrip
import Tunnel.Proofs.Json.Sorted
import Tunnel.Proofs.Json.Spelling
import Tunnel.Proofs.Json.Text
import Tunnel.Proofs.Json.Value
import Tunnel.Proofs.Lists
import Tunnel.Proofs.Message.Acceptance
import Tunnel.Proofs.Message.Frame
import Tunnel.Proofs.Message.Members
import Tunnel.Proofs.Message.RoundTrip
import Tunnel.Proofs.Message.Shape
import Tunnel.Proofs.Message.Target
import Tunnel.Proofs.Outbound
import Tunnel.Proofs.Pairing.Agreement
import Tunnel.Proofs.Pairing.Commands
import Tunnel.Proofs.Pairing.Document
import Tunnel.Proofs.Pairing.Members
import Tunnel.Proofs.Pairing.Save
import Tunnel.Proofs.Pairing.Store
import Tunnel.Proofs.Utf8
import Tunnel.Proofs.Utf8.Replacement
import Tunnel.Text.Blank
import Tunnel.Text.Composition
import Tunnel.Text.Composition.Table
import Tunnel.Text.Mark
import Tunnel.Text.Printable
import Tunnel.Text.Quoted
import Tunnel.Text.Ranges
import Tunnel.Text.Similarity
import Tunnel.Text.Utf8
import Tunnel.Uri
import Tunnel.Url
import Tunnel.Url.Domain
import Tunnel.Url.Domain.Direction
import Tunnel.Url.Domain.Joining
import Tunnel.Url.Domain.Mapping
import Tunnel.Url.Domain.MappingTable
import Tunnel.Url.Host
import Tunnel.Url.Parser
import Tunnel.Url.Path
import Tunnel.Url.Percent
import Tunnel.Url.Punycode
import Tunnel.Validation
