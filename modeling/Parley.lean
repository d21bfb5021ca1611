import Parley.Completion.Outcome
import Parley.Completion.Request
import Parley.Construction
import Parley.Conversation.Input
import Parley.Conversation.OfValue
import Parley.Conversation.Turn
import Parley.Http.Header
import Parley.Http.Post
import Parley.Http.Status
import Parley.Json.Decoder
import Parley.Json.Fault
import Parley.Json.Literal
import Parley.Json.Numeral
import Parley.Json.Outline
import Parley.Json.Printer
import Parley.Json.Record
import Parley.Json.Value
import Parley.Log
import Parley.Model.Basic
import Parley.Model.Builder
import Parley.Model.Uuid
import Parley.Number.Binary64
import Parley.Number.Shortest
import Parley.Proofs.Basic
import Parley.Proofs.Completion.Stored
import Parley.Proofs.Construction
import Parley.Proofs.Conversation.Input
import Parley.Proofs.Conversation.Replay
import Parley.Proofs.Conversation.Shape
import Parley.Proofs.Conversation.Transcript
import Parley.Proofs.Json.Decoder
import Parley.Proofs.Json.Grammar
import Parley.Proofs.Json.Length
import Parley.Proofs.Json.Literal
import Parley.Proofs.Json.Numeral
import Parley.Proofs.Json.Outline
import Parley.Proofs.Json.Printer
import Parley.Proofs.Json.Record
import Parley.Proofs.Json.Reread
import Parley.Proofs.Json.Value
import Parley.Proofs.Model.Builder
import Parley.Proofs.Model.Setting
import Parley.Proofs.Model.Stored
import Parley.Proofs.Model.Uuid
import Parley.Proofs.Provider.Authorization
import Parley.Proofs.Provider.Base
import Parley.Proofs.Provider.Builder
import Parley.Proofs.Provider.Complaint
import Parley.Proofs.Provider.Endpoint
import Parley.Proofs.Provider.Exchange
import Parley.Proofs.Provider.Kinds
import Parley.Proofs.Provider.Padding
import Parley.Proofs.Provider.Post
import Parley.Proofs.Provider.Reply
import Parley.Proofs.Provider.Route
import Parley.Proofs.Provider.Secrecy
import Parley.Proofs.Registry.Run
import Parley.Proofs.Script.Release
import Parley.Proofs.Script.Run
import Parley.Proofs.Service.Progress
import Parley.Proofs.Service.Race
import Parley.Proofs.Service.Wrapper
import Parley.Proofs.Table
import Parley.Proofs.Text.Blank
import Parley.Proofs.Text.Order
import Parley.Proofs.Text.Utf8
import Parley.Proofs.Url.Authority
import Parley.Proofs.Url.Domain
import Parley.Proofs.Url.Parser
import Parley.Proofs.Url.Path
import Parley.Provider.Adapter
import Parley.Provider.Endpoint
import Parley.Provider.Exchange
import Parley.Provider.Fault
import Parley.Provider.Kinds
import Parley.Provider.Reply
import Parley.Provider.Sample
import Parley.Registry.Basic
import Parley.Registry.Run
import Parley.Script.Basic
import Parley.Script.Run
import Parley.Service.Basic
import Parley.Service.Canned
import Parley.Service.Progress
import Parley.Steps
import Parley.Table
import Parley.Text.Blank
import Parley.Text.Lossy
import Parley.Text.Preview
import Parley.Text.Rows
import Parley.Text.Unprintable
import Parley.Url.Basic
import Parley.Url.Domain.Basic
import Parley.Url.Domain.Compose
import Parley.Url.Domain.Context
import Parley.Url.Domain.Mapping
import Parley.Url.Domain.Punycode
import Parley.Url.Host
import Parley.Url.Ipv4
import Parley.Url.Ipv6
import Parley.Url.Parser
import Parley.Url.Percent
