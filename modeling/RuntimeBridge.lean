import RuntimeBridge.DataProvider.BlobMerge
import RuntimeBridge.DataProvider.ParaCoverage
import RuntimeBridge.DataProvider.WalkInvariant
import RuntimeBridge.DataProvider.ParaBlob
import RuntimeBridge.Library.PQueue
import RuntimeBridge.Trade.Delivery
import RuntimeBridge.Library.Ordered
import RuntimeBridge.Trade.Attribution
import RuntimeBridge.Trade.Rejections
import RuntimeBridge.Trade.TraderExit
import RuntimeBridge.Trade.Nonce
import RuntimeBridge.Lifecycle.BlobWire
import RuntimeBridge.Lifecycle.BufferReads
import RuntimeBridge.Lifecycle.Destroy
import RuntimeBridge.Lifecycle.DispatchBound
import RuntimeBridge.Lifecycle.DpManager
import RuntimeBridge.Lifecycle.SyncCursors
import RuntimeBridge.Trade.ProcessJob
import RuntimeBridge.Lifecycle.RangeCache
import RuntimeBridge.DataProvider.Convergence
import RuntimeBridge.DataProvider.SetChange
import RuntimeBridge.DataProvider.FetchPara
import RuntimeBridge.DataProvider.Cursors
import RuntimeBridge.Lifecycle.RestartAlone
import RuntimeBridge.Lifecycle.Retries
import RuntimeBridge.Manager.Batched
import RuntimeBridge.Manager.Commands
import RuntimeBridge.Manager.PoolsKept
import RuntimeBridge.DataProvider.RangeIndexes
import RuntimeBridge.DataProvider.HeaderBuffers
import RuntimeBridge.DataProvider.SetBuffers
import RuntimeBridge.Library.Chunks
import RuntimeBridge.Lifecycle.PRuntime
import RuntimeBridge.Lifecycle.HeaderStream
import RuntimeBridge.Lifecycle.BlockStream
import RuntimeBridge.Manager.RunnerManager
import RuntimeBridge.Lifecycle.SeparatedSync
import RuntimeBridge.Lifecycle.WorkerPlan
import RuntimeBridge.Library.Varint
import RuntimeBridge.Library.Numbered
import RuntimeBridge.Manager.OperatorKeys
import RuntimeBridge.Lifecycle.MqEgress
import RuntimeBridge.DataProvider.ProviderInfo
import RuntimeBridge.Lifecycle.ReportedHeights
import RuntimeBridge.Trade.Preprocess
import RuntimeBridge.Trade.Requests
import RuntimeBridge.Lifecycle.PrpcQueue
import RuntimeBridge.Lifecycle.OnChainState
import RuntimeBridge.Trade.JobOutcome
