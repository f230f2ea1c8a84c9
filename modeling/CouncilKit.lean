import CouncilKit.Repair.GateSoundness
import CouncilKit.Repair.AliasRoots
import CouncilKit.Repair.ChainRuns
import CouncilKit.Repair.LeaseRuns
import CouncilKit.Discussion.SnapshotHistory
import CouncilKit.Repair.RecordLockRuns
import CouncilKit.Discussion.SpeakingOrder
import CouncilKit.Review.OwnRows
import CouncilKit.Host.Retries
import CouncilKit.Host.Quotas
import CouncilKit.Host.SessionTurns
import CouncilKit.Discussion.TakeoverRaces
import CouncilKit.Discussion.Provenance
import CouncilKit.Discussion.ContextRevisions
import CouncilKit.Discussion.Reports
import CouncilKit.Repair.AdjudicationGate
import CouncilKit.Repair.PackagePartition
import CouncilKit.Council.ExitCode
import CouncilKit.Auto.AttemptPool
import CouncilKit.Auto.PublishSafety
import CouncilKit.Observation.ResetPoll
import CouncilKit.Review.Correction
import CouncilKit.Review.LocusDedupe
import CouncilKit.Review.SectionVerdict
import CouncilKit.Repair.GroupFits
import CouncilKit.Host.SupervisedRuns
import CouncilKit.Host.CodexReadiness
import CouncilKit.Runs.ExecutionRefs
import CouncilKit.Repair.CommandLogs
import CouncilKit.Auto.DriverOutputs
import CouncilKit.Auto.SpawnFingerprint
import CouncilKit.Observation.PageOrder
import CouncilKit.Observation.DetailChunks
import CouncilKit.Auto.FrozenAgents
import CouncilKit.Auto.SpawnRuns
import CouncilKit.Runs.LiveRuns
import CouncilKit.Repair.RoleSeats
import CouncilKit.Review.FindingProblems
import CouncilKit.Auto.LiveSidecar
import CouncilKit.Host.FollowReconnect
import CouncilKit.Auto.ReaderSplits
import CouncilKit.Data.ClipUtf16
import CouncilKit.Data.Sha256Hex
import CouncilKit.Auto.KeptTail
import CouncilKit.Data.CanonicalJson
import CouncilKit.Auto.BoundSpecs
import CouncilKit.Discussion.RoomHistory
import CouncilKit.Host.RegistryRuns
