import RockDuck.BatchBoundaries
import RockDuck.BatchQuery
import RockDuck.BlockTiling
import RockDuck.ChangeDelivery
import RockDuck.ChangeReplay
import RockDuck.CheckpointFiles
import RockDuck.CommitClock
import RockDuck.CompactionCrash
import RockDuck.CompactionTrigger
import RockDuck.ConflictRuns
import RockDuck.DeleteLog
import RockDuck.DeltaBuffering
import RockDuck.DeltaWal
import RockDuck.FailedUpdate
import RockDuck.FilterRoundTrip
import RockDuck.FrozenCompaction
import RockDuck.GroupCommitDurability
import RockDuck.GuardFiles
import RockDuck.GuardQueries
import RockDuck.GuardStatistics
import RockDuck.HistoryPruning
import RockDuck.MaskFilter
import RockDuck.MetadataLookups
import RockDuck.PathConfinement
import RockDuck.ReadRetries
import RockDuck.ReadVisibility
import RockDuck.ReplayErrors
import RockDuck.ReplayReconstruction
import RockDuck.RowCount
import RockDuck.SegmentPaths
import RockDuck.SegmentZoneMap
import RockDuck.ShadowFilter
import RockDuck.SnapshotCache
import RockDuck.SparseIndex
import RockDuck.TimeTravelParsing
import RockDuck.TokenBucket
import RockDuck.TransactionIds
import RockDuck.VersionRows
import RockDuck.VisAlignment
import RockDuck.VisCompaction
import RockDuck.ZoneMapFile
import RockDuck.ZoneMapGroups
