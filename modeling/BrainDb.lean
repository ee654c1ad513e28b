import BrainDb.Wal.Delivery
import BrainDb.Wal.Broken
import BrainDb.Wal.Batches
import BrainDb.Wal.Readable
import BrainDb.Handlers.SpaceDelete
import BrainDb.Workers.SlotReclaim
import BrainDb.Server.Retry
import BrainDb.Network.Auth
import BrainDb.Handlers.TxnIsolation
import BrainDb.Handlers.TxnScope
import BrainDb.Handlers.Idempotency
import BrainDb.Store.ReplayAgain
import BrainDb.Handlers.RequestHash
import BrainDb.Schema.Additive
import BrainDb.Schema.Preflight
import BrainDb.Server.Checkpoint
import BrainDb.Network.FeedHistory
import BrainDb.Planner.Diversity
import BrainDb.Server.AnyHistory
import BrainDb.Graph.PredicateIndex
import BrainDb.Graph.SingleValue
import BrainDb.Planner.TimeTravel
import BrainDb.Graph.Acknowledge
import BrainDb.Graph.LaterChange
import BrainDb.Protocol.Frame
import BrainDb.Graph.Resolve
import BrainDb.Store.LiveIndex
import BrainDb.Workers.WalRetention
import BrainDb.Server.ArenaReplay
import BrainDb.Index.TwoTier
import BrainDb.Graph.Normalize
import BrainDb.Network.Registry
import BrainDb.Network.TxnRouter
