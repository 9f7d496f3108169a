import HttpService.Address
import HttpService.Address.Reading
import HttpService.Client.Calls
import HttpService.Client.Connecting
import HttpService.Client.Exchange
import HttpService.Client.Session
import HttpService.CommandLine.Command
import HttpService.CommandLine.Options
import HttpService.Connection
import HttpService.Echo
import HttpService.Error
import HttpService.Form
import HttpService.Form.Lemmas
import HttpService.Header.Fields
import HttpService.Header.Name
import HttpService.Header.Value
import HttpService.Json.Number
import HttpService.Json.Printing
import HttpService.Json.Quoted
import HttpService.Json.Reading
import HttpService.Json.Value
import HttpService.Main
import HttpService.Message
import HttpService.Method
import HttpService.Notice
import HttpService.Octets
import HttpService.Octets.Ascii
import HttpService.Proofs.Address.Authority
import HttpService.Proofs.Address.RoundTrip
import HttpService.Proofs.Client.Freshness
import HttpService.Proofs.Client.Hosts
import HttpService.Proofs.Client.Pairing
import HttpService.Proofs.Client.Phases
import HttpService.Proofs.Client.Repeated
import HttpService.Proofs.Client.StreamEnd
import HttpService.Proofs.Client.Submission
import HttpService.Proofs.Echo.Messages
import HttpService.Proofs.Echo.RoundTrip
import HttpService.Proofs.Header.Correlation
import HttpService.Proofs.Header.Reframed
import HttpService.Proofs.Header.Trimmed
import HttpService.Proofs.Header.Values
import HttpService.Proofs.Json.Ordered
import HttpService.Proofs.Json.Strings
import HttpService.Proofs.Route.Allowed
import HttpService.Proofs.Route.Content
import HttpService.Proofs.Route.Lookup
import HttpService.Proofs.Route.Operations
import HttpService.Proofs.Route.Reach
import HttpService.Proofs.Route.Search
import HttpService.Proofs.Route.Shape
import HttpService.Proofs.Route.Sorted
import HttpService.Proofs.Route.Tables
import HttpService.Proofs.Route.Templates
import HttpService.Proofs.Route.Updates
import HttpService.Proofs.Route.Visits
import HttpService.Proofs.Server.Abandoned
import HttpService.Proofs.Server.Closing
import HttpService.Proofs.Server.Departure
import HttpService.Proofs.Server.Exchanges
import HttpService.Proofs.Server.Pipelining
import HttpService.Proofs.Server.Reports
import HttpService.Proofs.Server.Rounds
import HttpService.Proofs.Server.Unrouted
import HttpService.Proofs.Settings.Overrides
import HttpService.Proofs.Settings.RoundTrip
import HttpService.Proofs.Target
import HttpService.Proofs.TargetForms
import HttpService.Proofs.Text.Counts
import HttpService.Proofs.Text.Decimal
import HttpService.Proofs.Wait.Conditions
import HttpService.Proofs.Wait.Deeds
import HttpService.Proofs.Wait.Deliveries
import HttpService.Proofs.Wait.Loops
import HttpService.Proofs.Wait.Moves
import HttpService.Proofs.Wait.Operations
import HttpService.Proofs.Wait.Permits
import HttpService.Proofs.Wait.Precedence
import HttpService.Proofs.Wait.Supply
import HttpService.Proofs.Wait.Tasks
import HttpService.Proofs.Wait.Turns
import HttpService.Proofs.Wait.Wakes
import HttpService.Proofs.Wire.Awaited
import HttpService.Proofs.Wire.Buffered
import HttpService.Proofs.Wire.Carried
import HttpService.Proofs.Wire.Checked
import HttpService.Proofs.Wire.Chunked
import HttpService.Proofs.Wire.Failures
import HttpService.Proofs.Wire.Fragments
import HttpService.Proofs.Wire.Lengths
import HttpService.Proofs.Wire.Limits
import HttpService.Proofs.Wire.Pieces
import HttpService.Proofs.Wire.RoundTrip
import HttpService.Proofs.Wire.Scanning
import HttpService.Proofs.Wire.Spelled
import HttpService.Proofs.Wire.StreamEnd
import HttpService.Proofs.Wire.Taken
import HttpService.Proofs.Wire.Truncated
import HttpService.Proofs.Wire.Written
import HttpService.Proofs.Yaml.Counts
import HttpService.Proofs.Yaml.Mappings
import HttpService.Proofs.Yaml.Outline
import HttpService.Proofs.Yaml.Sections
import HttpService.Proofs.Yaml.Words
import HttpService.RequestId
import HttpService.Route.Entry
import HttpService.Route.OpenApi
import HttpService.Route.Registry
import HttpService.Route.Router
import HttpService.Route.Segments
import HttpService.Route.Table
import HttpService.Route.Trie
import HttpService.Route.Update
import HttpService.Route.Visit
import HttpService.Server.Exchange
import HttpService.Server.Facility
import HttpService.Server.Handler
import HttpService.Server.Listening
import HttpService.Server.Report
import HttpService.Server.Round
import HttpService.Server.Script
import HttpService.Server.Session
import HttpService.SessionId
import HttpService.Settings.Basic
import HttpService.Settings.Document
import HttpService.Settings.Environment
import HttpService.Settings.Logging
import HttpService.Settings.Record
import HttpService.Status
import HttpService.SystemFault
import HttpService.Target
import HttpService.Text.Blank
import HttpService.Text.Combining
import HttpService.Text.Composed
import HttpService.Text.Composite
import HttpService.Text.Decimal
import HttpService.Text.Direction
import HttpService.Text.Joining
import HttpService.Text.Mark
import HttpService.Text.Mended
import HttpService.Text.Pieces
import HttpService.Text.Quoted
import HttpService.Text.Real
import HttpService.Text.Shortest
import HttpService.Text.Shown
import HttpService.Text.Table
import HttpService.Url
import HttpService.Url.Escape
import HttpService.Url.Host
import HttpService.Url.Name
import HttpService.Url.Name.Encoded
import HttpService.Url.Name.Folded
import HttpService.Url.Name.Label
import HttpService.Url.Path
import HttpService.Url.Scheme
import HttpService.Version
import HttpService.Wait.Blocking
import HttpService.Wait.Condition
import HttpService.Wait.Queue
import HttpService.Wait.Room
import HttpService.Wait.Semaphore
import HttpService.Wait.Signal
import HttpService.Wire.ChunkSize
import HttpService.Wire.Consumed
import HttpService.Wire.Decoder
import HttpService.Wire.Delivery
import HttpService.Wire.Encoder
import HttpService.Wire.Framing
import HttpService.Wire.Head
import HttpService.Wire.Reader
import HttpService.Wire.Scan
import HttpService.Wire.Source
import HttpService.Yaml.Data
import HttpService.Yaml.Document
import HttpService.Yaml.Node
import HttpService.Yaml.Plain
import HttpService.Yaml.Source
import HttpService.Yaml.Token.Basic
import HttpService.Yaml.Token.Folding
import HttpService.Yaml.Token.Lexer
import HttpService.Yaml.Token.Scalar
import HttpService.Yaml.Token.Tag
