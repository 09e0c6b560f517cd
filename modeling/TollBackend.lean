import TollBackend.Concurrent.Program
import TollBackend.Concurrent.Pool
import TollBackend.Concurrent.Local
import TollBackend.Concurrent.Serial
import TollBackend.Concurrent.Keyed
import TollBackend.Basic
import TollBackend.Etdr.Record
import TollBackend.Stage.Record
import TollBackend.Etdr.Convert
import TollBackend.Etdr.Cache
import TollBackend.Etdr.CacheCalls
import TollBackend.Stage.Table
import TollBackend.System
import TollBackend.Effects
import TollBackend.Stage.Repository
import TollBackend.Etdr.Retry
import TollBackend.Handlers.Lookup
import TollBackend.Handlers.Checkin
import TollBackend.Handlers.Commit
import TollBackend.Handlers.Checkout
import TollBackend.Backend
import TollBackend.Durability.CheckinCommit
import TollBackend.Durability.Reserve
import TollBackend.Durability.Checkout
import TollBackend.CommitTarget
import TollBackend.LookupKept
import TollBackend.TakingTurns.Tickets
import TollBackend.Lifecycle.Requests
import TollBackend.TakingTurns.Marks
import TollBackend.TakingTurns.Reserve
import TollBackend.TakingTurns.CheckoutCommit
import TollBackend.CommitHistory.Exits
import TollBackend.CommitHistory.OwnTrip
import TollBackend.CommitHistory.Answers
import TollBackend.Retry.Carries
import TollBackend.Records.Rule
import TollBackend.Records.CheckoutEvent
import TollBackend.Records.OwnerIds
import TollBackend.SyncImport
import TollBackend.Tcd.Table
import TollBackend.Tcd.Save
import TollBackend.Tcd.LockApart
import TollBackend.TollFee.Lists
import TollBackend.TollFee.Flow
import TollBackend.TollFee.BlackList
import TollBackend.TollFee.Validity
import TollBackend.TollFee.Accounting
import TollBackend.TollFee.Subscription
import TollBackend.Wire.Incremental
import TollBackend.Wire.LittleEndian
import TollBackend.Wire.Utf8
import TollBackend.Concurrent.Machine
import TollBackend.Fe.Commands
import TollBackend.Network.Framing
import TollBackend.Network.Segmentation
import TollBackend.Network.Connection
import TollBackend.Network.Waiting
import TollBackend.Network.Terminate
import TollBackend.Fe.Text
import TollBackend.Fe.Protocol
import TollBackend.Fe.Requests
import TollBackend.Fe.Dispatch
import TollBackend.Fe.MessageBuilder
import TollBackend.Fe.Responses
import TollBackend.Fe.ResponseParser
import TollBackend.Wire.Pkcs7
import TollBackend.Network.ServerConfig
import TollBackend.Network.KeyResolution
import TollBackend.Fe.StationFilter
import TollBackend.Kafka.Queue
import TollBackend.Sql.Literals
import TollBackend.Stage.Columns
import TollBackend.Stage.RoundTrip
import TollBackend.Stage.SqlText
import TollBackend.Records.TagForms
import TollBackend.Network.IpBlock
import TollBackend.Network.Sessions
import TollBackend.Kafka.Permits
import TollBackend.Kafka.HandOver
import TollBackend.Kafka.Delivery
import TollBackend.Concurrent.LastWrite
import TollBackend.Kafka.HubConsumer
import TollBackend.Kafka.ConsumerLeader
import TollBackend.DbRetry.Queue
import TollBackend.DbRetry.Places
import TollBackend.DbRetry.Kept
import TollBackend.Merge.ByKey
import TollBackend.Merge.Versions
import TollBackend.Merge.Records
import TollBackend.Merge.Fields
import TollBackend.Merge.SameTicket
import TollBackend.Merge.Dedupe
import TollBackend.Merge.Flush
import TollBackend.FeeCache.Loaders
import TollBackend.TollFee.Exceptions
import TollBackend.Fe.RatingLines
import TollBackend.Kafka.Backoff
import TollBackend.Lanes.Fallback
import TollBackend.Etdr.Eviction
import TollBackend.Etdr.Cleanup
import TollBackend.FeeCache.ListContext
import TollBackend.TicketId.Sequential
import TollBackend.Fe.ReplyFrames
import TollBackend.Stage.DatetimeWritten
import TollBackend.Network.IpDenylist
import TollBackend.Handlers.CheckinIds
import TollBackend.FeeCache.SegmentHistory
import TollBackend.FeeCache.PriceHistory
import TollBackend.TicketId.Distinct
import TollBackend.Answered
import TollBackend.Ledger
import TollBackend.Network.Routed
import TollBackend.Network.Served
import TollBackend.Journey.Completed
import TollBackend.TollFee.Concessions
