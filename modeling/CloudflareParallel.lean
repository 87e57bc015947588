import CloudflareParallel.FanOutCap
import CloudflareParallel.FanOutSeparation
import CloudflareParallel.PlanRefinement
import CloudflareParallel.FanOutOptions
import CloudflareParallel.LoaderIsolation
import CloudflareParallel.ActorSerializability
import CloudflareParallel.SchedulerSingleExecution
import CloudflareParallel.SchedulerWakeUp
import CloudflareParallel.SchedulerStateMachine
import CloudflareParallel.SchedulerInterchange
import CloudflareParallel.SchedulerHandles
import CloudflareParallel.SchedulerFencing
import CloudflareParallel.SchedulerDeliveries
import CloudflareParallel.SchedulerLimits
import CloudflareParallel.SchedulerBackoff
import CloudflareParallel.SchedulerOrphans
import CloudflareParallel.ErrorRoundTrip
import CloudflareParallel.RunFanOutSpecification
import CloudflareParallel.RaceClasses
import CloudflareParallel.SubmittedLimits
import CloudflareParallel.LoaderFleet
import CloudflareParallel.FanOutSends
import CloudflareParallel.PoolFanOut
import CloudflareParallel.LoaderScope
import CloudflareParallel.CancelStreams
import CloudflareParallel.LoaderCancelSpecification
import CloudflareParallel.CapabilityNarrowing
import CloudflareParallel.SchedulerQueuesStore
import CloudflareParallel.ActorReset
import CloudflareParallel.PoolReruns
import CloudflareParallel.SchedulerQueueBound
import CloudflareParallel.SchedulerRetryCount
import CloudflareParallel.LoaderCircular
import CloudflareParallel.LoaderFaithful
import CloudflareParallel.LoaderShimRemoval
import CloudflareParallel.PoolReduce
import CloudflareParallel.ChunkedPools
import CloudflareParallel.IsolateSemaphore
import CloudflareParallel.StreamingMaps
import CloudflareParallel.CancelForks
import CloudflareParallel.PoolMap
import CloudflareParallel.PoolStreams
import CloudflareParallel.FanOutDeadline
import CloudflareParallel.Library.ParentForests
import CloudflareParallel.CancelTokens
import CloudflareParallel.CancelTokenTree
import CloudflareParallel.CancelTokenRuns
import CloudflareParallel.Library.DoubleIntegers
import CloudflareParallel.RetryCounts
import CloudflareParallel.DispatchBudgetOptions
import CloudflareParallel.SchedulerStats
import CloudflareParallel.SchedulerConfigure
import CloudflareParallel.SchedulerSweeps
import CloudflareParallel.Library.JsonCodecs
import CloudflareParallel.Library.SqlRows
import CloudflareParallel.SchedulerJobColumns
import CloudflareParallel.SchedulerStatements
import CloudflareParallel.SchedulerRoundTrips
import CloudflareParallel.SchedulerTables
import CloudflareParallel.Library.CursorPages
import CloudflareParallel.SchedulerEvents
import CloudflareParallel.SchedulerRetryAlarm
import CloudflareParallel.SchedulerBackoffCurve
import CloudflareParallel.Library.Utf8Decoding
import CloudflareParallel.BodyStreams
import CloudflareParallel.SubmittedSizes
import CloudflareParallel.ErrorDecode
import CloudflareParallel.FanOutRecords
import CloudflareParallel.FanOutFirstFailure
import CloudflareParallel.SchedulerQueueMessages
import CloudflareParallel.PoolCounters
import CloudflareParallel.ReturnSizes
import CloudflareParallel.Library.MarkedTraversals
import CloudflareParallel.ActorFakes
import CloudflareParallel.SchedulerCauses
import CloudflareParallel.SchedulerIdempotency
import CloudflareParallel.Library.DrainBarriers
import CloudflareParallel.PoolDrain
import CloudflareParallel.SchedulerFake
import CloudflareParallel.Library.SlidingWindows
import CloudflareParallel.PoolStats
import CloudflareParallel.Observability
import CloudflareParallel.SubmitEvents
import CloudflareParallel.PoolNetwork
import CloudflareParallel.FanOutTargets
import CloudflareParallel.SchedulerClientRuns
import CloudflareParallel.SubmitAuth
import CloudflareParallel.SubmitResponses
import CloudflareParallel.SchedulerCancellation
import CloudflareParallel.LeafStubs
import CloudflareParallel.LeafStubRuns
import CloudflareParallel.SchedulerLifecycles
