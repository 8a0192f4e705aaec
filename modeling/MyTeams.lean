import MyTeams.Lib.FirstMatch
import MyTeams.Lib.Growth
import MyTeams.Lib.Halting
import MyTeams.Lib.Logged
import MyTeams.Lib.Outbox
import MyTeams.Lib.Replica
import MyTeams.Lib.SortedMap
import MyTeams.Lib.Sweep
import MyTeams.Lib.Transition
import MyTeams.Lib.Unwinding
import MyTeams.Lib.Words
import MyTeams.Model.Arguments
import MyTeams.Model.Bytes
import MyTeams.Model.Database
import MyTeams.Model.Identifiers
import MyTeams.Protocol.Frame
import MyTeams.Protocol.Tokens
import MyTeams.Protocol.Reading
import MyTeams.Storage.JsonParser
import MyTeams.Storage.JsonSerializer
import MyTeams.Storage.Layout
import MyTeams.Storage.RoundTrip
import MyTeams.Storage.Accesses
import MyTeams.Server.State
import MyTeams.Server.Outcome
import MyTeams.Server.Machine
import MyTeams.Server.Log
import MyTeams.Server.EventLoop
import MyTeams.Server.Lifecycle
import MyTeams.Server.ReadBuffer
import MyTeams.Server.Session
import MyTeams.Server.Observation
import MyTeams.Commands.Community
import MyTeams.Commands.Content
import MyTeams.Commands.Session
import MyTeams.Commands.Dispatch
import MyTeams.ClientApp.CommandLine
import MyTeams.ClientApp.Router
import MyTeams.ClientApp.Segments
import MyTeams.ClientApp.ServerReader
import MyTeams.ClientApp.EventLoop
import MyTeams.ClientApp.Link
import MyTeams.ClientApp.Display
import MyTeams.ClientApp.StdinLoop
import MyTeams.ClientApp.Wire
import MyTeams.ClientApp.Network
import MyTeams.Invariants.Growth
import MyTeams.Invariants.Identities
import MyTeams.Invariants.Contexts
import MyTeams.Invariants.Messages
import MyTeams.Invariants.Provenance
import MyTeams.Invariants.Registry
import MyTeams.Invariants.Sessions
import MyTeams.Invariants.Timestamps
import MyTeams.Invariants.WellFormed
import MyTeams.Guarantees.Responses
import MyTeams.Guarantees.Anonymity
import MyTeams.Guarantees.AppendOnly
import MyTeams.Guarantees.ArgumentFidelity
import MyTeams.Guarantees.AtRest
import MyTeams.Guarantees.AuditLog
import MyTeams.Guarantees.AuthenticationGate
import MyTeams.Guarantees.Authorization
import MyTeams.Guarantees.ClientFragmentation
import MyTeams.Guarantees.Confidentiality
import MyTeams.Guarantees.ContextValidity
import MyTeams.Guarantees.ConversationAgreement
import MyTeams.Guarantees.Durability
import MyTeams.Guarantees.ErrorAtomicity
import MyTeams.Guarantees.EventDelivery
import MyTeams.Guarantees.FieldPositions
import MyTeams.Guarantees.FrameSize
import MyTeams.Guarantees.IdentityStability
import MyTeams.Guarantees.JsonLayouts
import MyTeams.Guarantees.LoadTermination
import MyTeams.Guarantees.MessageHistory
import MyTeams.Guarantees.NetworkRefinement
import MyTeams.Guarantees.NoInjection
import MyTeams.Guarantees.OfficialClients
import MyTeams.Guarantees.Observers
import MyTeams.Guarantees.OutputStreams
import MyTeams.Guarantees.ParserBounds
import MyTeams.Guarantees.PollRegistry
import MyTeams.Guarantees.Presence
import MyTeams.Guarantees.PrivateMessages
import MyTeams.Guarantees.Replicas
import MyTeams.Guarantees.ReplyAttribution
import MyTeams.Guarantees.ServerFragmentation
import MyTeams.Guarantees.SessionReset
import MyTeams.Guarantees.Settling
import MyTeams.Guarantees.SharedEvents
import MyTeams.Guarantees.Shutdown
import MyTeams.Guarantees.StdinLines
import MyTeams.Guarantees.SubscriptionHistory
import MyTeams.Guarantees.TeamReplicas
import MyTeams.Guarantees.TokenizerAgreement
import MyTeams.Guarantees.ValueFidelity
import MyTeams.Guarantees.WireEvents
import MyTeams.Guarantees.WireProgress
import MyTeams.Guarantees.WireRefinement
