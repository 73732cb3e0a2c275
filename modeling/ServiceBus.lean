import ServiceBus.BusError
import ServiceBus.Collection.Dict
import ServiceBus.Collection.Table
import ServiceBus.Command
import ServiceBus.Context
import ServiceBus.Decimal.Binary64
import ServiceBus.Decimal.Parts
import ServiceBus.Decimal.Positional
import ServiceBus.Decimal.Shortest
import ServiceBus.Diagnostic
import ServiceBus.Diagnostic.Inspection
import ServiceBus.Engine
import ServiceBus.Event
import ServiceBus.Event.Broadcast
import ServiceBus.Exchange
import ServiceBus.Failover
import ServiceBus.Failover.Cursor
import ServiceBus.Fault.Document
import ServiceBus.Fault.Markup
import ServiceBus.Handler
import ServiceBus.Json
import ServiceBus.Json.Numeral
import ServiceBus.Json.Outline
import ServiceBus.Json.Printer
import ServiceBus.Json.Reader
import ServiceBus.Json.Token
import ServiceBus.Leg.Basic
import ServiceBus.Leg.Effects
import ServiceBus.Leg.IncomingRequest
import ServiceBus.Leg.IncomingResponse
import ServiceBus.Leg.Outgoing
import ServiceBus.Message
import ServiceBus.Parties
import ServiceBus.Policy.Headers
import ServiceBus.Proofs.Text.Search
import ServiceBus.Rehearsal
import ServiceBus.Rehearsal.Files
import ServiceBus.Rehearsal.Labels
import ServiceBus.Rehearsal.Script
import ServiceBus.Rehearsal.StockLevel
import ServiceBus.Service
import ServiceBus.Settings
import ServiceBus.Settings.Environment
import ServiceBus.Settings.Loading
import ServiceBus.Store
import ServiceBus.Text.Blank
import ServiceBus.Text.LowerCase
import ServiceBus.Text.Numeral
import ServiceBus.Text.Property.CaseIgnorable
import ServiceBus.Text.Property.Cased
import ServiceBus.Text.Property.GraphemeExtend
import ServiceBus.Text.Property.SmallLetter
import ServiceBus.Text.Property.Unprintable
import ServiceBus.Text.Quoted
import ServiceBus.Text.Ranges
import ServiceBus.Text.Search
import ServiceBus.Timestamp
import ServiceBus.Timestamp.Rfc3339
import ServiceBus.Uuid
import ServiceBus.Variant
import ServiceBus.Vocabulary
import ServiceBus.Wire.Context
import ServiceBus.Wire.DecodeError
import ServiceBus.Wire.Event
import ServiceBus.Wire.Exchange
import ServiceBus.Wire.Form
import ServiceBus.Wire.Leaf
import ServiceBus.Wire.Progress
import ServiceBus.Wire.Service
import ServiceBus.Wire.Settings
import ServiceBus.Wire.Yaml
import ServiceBus.Yaml
import ServiceBus.Yaml.Merge
import ServiceBus.Yaml.Node
import ServiceBus.Yaml.Node.Reader
import ServiceBus.Yaml.Node.Reference
import ServiceBus.Yaml.Place
import ServiceBus.Yaml.Reader
import ServiceBus.Yaml.Scalar.Block
import ServiceBus.Yaml.Scalar.Gap
import ServiceBus.Yaml.Scalar.Meaning
import ServiceBus.Yaml.Scalar.Plain
import ServiceBus.Yaml.Scalar.Quoted
import ServiceBus.Yaml.Tag
import ServiceBus.Yaml.Token
import ServiceBus.Yaml.Token.Names
import ServiceBus.Yaml.Token.Reader
import ServiceBus.Proofs.Fault.Entities
import ServiceBus.Proofs.Fault.Markup
import ServiceBus.Proofs.Fault.Document
import ServiceBus.Proofs.Leg.Steps
import ServiceBus.Proofs.Leg.Effects
import ServiceBus.Proofs.Leg.IncomingResponse
import ServiceBus.Proofs.Leg.Signals
import ServiceBus.Proofs.Leg.IncomingRequest
import ServiceBus.Proofs.Command.Execution
import ServiceBus.Proofs.Command.Signals
import ServiceBus.Proofs.Leg.Outcome
import ServiceBus.Proofs.Command.Waiting
import ServiceBus.Proofs.Leg.Faults
import ServiceBus.Proofs.Command.Faults
import ServiceBus.Proofs.Command.Reception
import ServiceBus.Proofs.Leg.Moves
import ServiceBus.Proofs.Leg.Rewriting
import ServiceBus.Proofs.Command.Moves
import ServiceBus.Proofs.Command.Rewriting
import ServiceBus.Proofs.Failover.Trials
import ServiceBus.Proofs.Leg.Keeping
import ServiceBus.Proofs.Command.Keeping
import ServiceBus.Proofs.Engine.Pending
import ServiceBus.Proofs.Command.Receipt
import ServiceBus.Proofs.Leg.Calls
import ServiceBus.Proofs.Engine.Completion
import ServiceBus.Proofs.Engine.Blocking
import ServiceBus.Proofs.Leg.Departure
import ServiceBus.Proofs.Command.Departure
import ServiceBus.Proofs.Leg.Beats
import ServiceBus.Proofs.Leg.Notices
import ServiceBus.Proofs.Command.Notices
import ServiceBus.Proofs.Command.Endings
import ServiceBus.Proofs.Leg.Related
import ServiceBus.Proofs.Command.Related
import ServiceBus.Proofs.Leg.Alike
import ServiceBus.Proofs.Command.Alike
import ServiceBus.Proofs.Command.History
import ServiceBus.Proofs.Command.Callback
import ServiceBus.Proofs.Failover.Contacts
import ServiceBus.Proofs.Leg.Agree
import ServiceBus.Proofs.Command.Independence
import ServiceBus.Proofs.Wire.Form
import ServiceBus.Proofs.Yaml.Merge
import ServiceBus.Proofs.Settings.Sections
import ServiceBus.Proofs.Leg.Sending
import ServiceBus.Proofs.Command.Returning
import ServiceBus.Proofs.Engine.Returning
import ServiceBus.Proofs.Engine.Sending
import ServiceBus.Proofs.Leg.Commitment
import ServiceBus.Proofs.Command.Commitment
import ServiceBus.Proofs.Leg.Undelivered
import ServiceBus.Proofs.Command.Undelivered
import ServiceBus.Proofs.Command.Correlation
import ServiceBus.Proofs.Fault.Classification
import ServiceBus.Proofs.Failover.Aggregation
import ServiceBus.Proofs.Failover.Faults
import ServiceBus.Proofs.Text.Blank
import ServiceBus.Proofs.Policy.Headers
import ServiceBus.Proofs.Yaml.Paths
import ServiceBus.Proofs.Yaml.Distinct
import ServiceBus.Proofs.Settings.Environments
import ServiceBus.Proofs.Failover.Cursor
import ServiceBus.Proofs.Store.History
import ServiceBus.Proofs.Handler.History
import ServiceBus.Proofs.Command.Participants
import ServiceBus.Proofs.Wire.Members
import ServiceBus.Proofs.Wire.Text
import ServiceBus.Proofs.Wire.RoundTrip
import ServiceBus.Proofs.Wire.Edits
