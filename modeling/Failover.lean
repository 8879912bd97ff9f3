import Failover.Action
import Failover.Answer
import Failover.Client.Basic
import Failover.Client.Build
import Failover.Client.Encoded
import Failover.Client.Execute
import Failover.Client.System
import Failover.ClientError
import Failover.Command.Help
import Failover.Command.Line
import Failover.Command.Option
import Failover.Command.Output
import Failover.Command.Run
import Failover.Command.Session
import Failover.Config.Basic
import Failover.Config.File
import Failover.Config.Json
import Failover.Config.Reading
import Failover.Config.Toml
import Failover.Config.Yaml
import Failover.Credentials
import Failover.Decimal.Binary64
import Failover.Decimal.Shortest
import Failover.Dict
import Failover.Discovery.Address
import Failover.Discovery.Iteration
import Failover.Domain.Bidi
import Failover.Domain.BidiTable
import Failover.Domain.Joining
import Failover.Domain.JoiningTable
import Failover.Domain.Mapping
import Failover.Domain.MappingTable
import Failover.Domain.MarkTable
import Failover.Domain.Name
import Failover.Domain.Punycode
import Failover.Failure
import Failover.Gzip
import Failover.Gzip.Inflate
import Failover.Gzip.Stream
import Failover.Http.Connection
import Failover.Http.Exchange
import Failover.Http.Fault
import Failover.Http.Message
import Failover.Http.Reason
import Failover.Json.Cursor
import Failover.Json.Expect
import Failover.Json.Fault
import Failover.Json.Number
import Failover.Json.Reader
import Failover.Json.Skip
import Failover.Json.Value
import Failover.Json.Writer
import Failover.Ledger
import Failover.Main
import Failover.Method
import Failover.Pool
import Failover.Rehearsal.Script
import Failover.Rehearsal.Step
import Failover.Rehearsal.Timeline
import Failover.Request
import Failover.Retry
import Failover.Server
import Failover.Server.Json
import Failover.Text.Base64
import Failover.Text.Blank
import Failover.Text.CodeTable
import Failover.Text.Digit
import Failover.Text.Listing
import Failover.Text.Normal
import Failover.Text.NormalTable
import Failover.Text.Numeral
import Failover.Text.PrintableTable
import Failover.Text.Quoted
import Failover.Text.Split
import Failover.Text.Utf8
import Failover.Toml.Document
import Failover.Toml.Number
import Failover.Toml.Quoted
import Failover.Toml.Table
import Failover.Toml.Text
import Failover.Toml.Value
import Failover.Url.Basic
import Failover.Url.Host
import Failover.Url.Ipv4
import Failover.Url.Ipv6
import Failover.Url.Path
import Failover.Url.Percent
import Failover.Yaml.Grammar
import Failover.Yaml.Layout
import Failover.Yaml.Node
import Failover.Yaml.Place
import Failover.Yaml.Scalar
import Failover.Yaml.Tag
import Failover.Yaml.Token
import Failover.Proofs.Pool
import Failover.Proofs.Rotation
import Failover.Proofs.Attempts
import Failover.Proofs.Failover
import Failover.Proofs.Run
import Failover.Proofs.Ledger
import Failover.Proofs.Membership
import Failover.Proofs.Course
import Failover.Proofs.Isolation
import Failover.Proofs.Iteration
import Failover.Proofs.Dispatches
import Failover.Proofs.Balance
import Failover.Proofs.Shutdown
import Failover.Proofs.Overlap
import Failover.Proofs.Background
import Failover.Proofs.Schedule
import Failover.Proofs.Booking
import Failover.Proofs.Accounts
import Failover.Proofs.Override
import Failover.Proofs.Passwords
import Failover.Proofs.Canonical
import Failover.Proofs.Origin
import Failover.Proofs.Wraparound
import Failover.Proofs.Spelling
import Failover.Proofs.ByteOrder
import Failover.Proofs.Gzip
import Failover.Proofs.Dict
import Failover.Proofs.Encoding
import Failover.Proofs.Replacement
import Failover.Proofs.Advertised
import Failover.Proofs.JsonOrder
import Failover.Proofs.Extraction
import Failover.Proofs.Rearranged
import Failover.Proofs.JsonNumber
import Failover.Proofs.JsonText
import Failover.Proofs.Omission
import Failover.Proofs.Classification
import Failover.Proofs.Drain
import Failover.Proofs.HeaderCalls
import Failover.Proofs.UsableScheme
import Failover.Proofs.Settling
import Failover.Proofs.Session
