import MessageRelay.Timer.Script
import MessageRelay.Call.Script
import MessageRelay.Relay.Report
import MessageRelay.Node.Container
import MessageRelay.Main
import MessageRelay.Proofs.Keyed
import MessageRelay.Proofs.Call.Table
import MessageRelay.Proofs.Call.Machine
import MessageRelay.Proofs.Call.Settlement
import MessageRelay.Proofs.Call.Abandonment
import MessageRelay.Dispatch.Machine
import MessageRelay.Proofs.Dispatch.Traffic
import MessageRelay.Proofs.Dispatch.Machine
import MessageRelay.Proofs.Dispatch.Answers
import MessageRelay.Proofs.Dispatch.Ownership
import MessageRelay.Proofs.Timer.Agenda
import MessageRelay.Proofs.Timer.Schedule
import MessageRelay.Proofs.Timer.Refinement
import MessageRelay.Proofs.Timer.Machine
import MessageRelay.Proofs.Timer.Fates
import MessageRelay.Proofs.Timer.Firing
import MessageRelay.Timer.Driver
import MessageRelay.Proofs.Timer.Driver
import MessageRelay.Proofs.Call.Counters
import MessageRelay.Proofs.Call.Closing
import MessageRelay.Network.Moves
import MessageRelay.Proofs.Network.Lanes
import MessageRelay.Proofs.Network.Queues
import MessageRelay.Proofs.Call.Deadlines
import MessageRelay.Dispatch.Fleet
import MessageRelay.Proofs.Dispatch.Calls
import MessageRelay.Proofs.Dispatch.Posts
import MessageRelay.Proofs.Dispatch.Station
import MessageRelay.Proofs.Dispatch.Fleet
import MessageRelay.Proofs.Dispatch.Exchange
import MessageRelay.Dispatch.Loop
import MessageRelay.Proofs.Dispatch.Loop
import MessageRelay.Proofs.Dispatch.Closing
import MessageRelay.Proofs.Registry
import MessageRelay.Proofs.Timer.Later
import MessageRelay.Proofs.Call.Expiry
import MessageRelay.Proofs.Call.Punctuality
import MessageRelay.Dispatch.Holder
import MessageRelay.Proofs.Dispatch.Holder
import MessageRelay.Proofs.Dispatch.Finality
import MessageRelay.Proofs.Dispatch.Routing
import MessageRelay.Proofs.Call.Balance
import MessageRelay.Proofs.Dispatch.Events
import MessageRelay.Proofs.Dispatch.Bookings
import MessageRelay.Proofs.Dispatch.Record
import MessageRelay.Proofs.Dispatch.Gauge
import MessageRelay.Proofs.Dispatch.Mirror
import MessageRelay.Proofs.Dispatch.Accounts
import MessageRelay.Proofs.Dispatch.Lifetimes
import MessageRelay.Proofs.Dispatch.Conclusions
import MessageRelay.Proofs.CorrelationId
import MessageRelay.Proofs.Json.Tokens
import MessageRelay.Proofs.Json.Values
import MessageRelay.Proofs.Json.Results
import MessageRelay.Proofs.Json.Records
import MessageRelay.Proofs.Wire
import MessageRelay.Proofs.Dispatch.Hops
import MessageRelay.Proofs.Dispatch.Chains
import MessageRelay.Proofs.Timer.Readings
import MessageRelay.Proofs.Node.Startup
import MessageRelay.Proofs.Dispatch.Requests
import MessageRelay.Proofs.Dispatch.Refusals
import MessageRelay.Proofs.Dispatch.Patience
import MessageRelay.Proofs.Network.Delivery
import MessageRelay.Proofs.Timer.Discards
import MessageRelay.Proofs.Dispatch.Categories
import MessageRelay.Proofs.Timer.Slots
import MessageRelay.Proofs.Json.Passing
import MessageRelay.Json.Outline
import MessageRelay.Proofs.Json.Outline
import MessageRelay.Timer.Rounds
import MessageRelay.Proofs.Json.Parts
import MessageRelay.Proofs.Config.Layers
import MessageRelay.Proofs.Config.Files
import MessageRelay.Proofs.Config.Loading
