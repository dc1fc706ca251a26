import Breakdown.Aggregates.BeatDensity
import Breakdown.Aggregates.Noops
import Breakdown.Ai.ApplyRuns
import Breakdown.Ai.DerivedIds
import Breakdown.Ai.FigureCategories
import Breakdown.Ai.Limiter
import Breakdown.Ai.MergeFairness
import Breakdown.Ai.QueueLifecycle
import Breakdown.Ai.Renewal
import Breakdown.Ai.ScheduleConvergence
import Breakdown.Ai.Scoring
import Breakdown.Ai.ScriptOnce
import Breakdown.Ai.SourceName
import Breakdown.Ai.UsageLedger
import Breakdown.AiConfigs.Pairing
import Breakdown.Frontend.Reconciliation
import Breakdown.Photo.Collector
import Breakdown.Photo.SagaReplay
import Breakdown.Photo.VariantMetadata
import Breakdown.Projections.Audit
import Breakdown.Projections.Convergence
import Breakdown.Projections.Membership
import Breakdown.Projections.Outfit
import Breakdown.Projections.SceneRedelivery
import Breakdown.Reporting.Backup
import Breakdown.Reservations.Exclusivity
import Breakdown.Sagas.SeasonSeeding
import Breakdown.Settings.SecretLifetime
import Breakdown.SortKeys
import Breakdown.WrapFinality.Finality
