import LotusIdea.Application.ActionIdentities
import LotusIdea.Application.Commands
import LotusIdea.Application.EffectivenessFunnel
import LotusIdea.Application.Entitlement
import LotusIdea.Application.PresentationAuthority
import LotusIdea.Application.QueueClassification
import LotusIdea.Application.ReviewQueueRead
import LotusIdea.Application.TransitionReports
import LotusIdea.Application.WorkflowRuns
import LotusIdea.Application.Workflows
import LotusIdea.Domain.AIActionPolicy
import LotusIdea.Domain.AIGovernance
import LotusIdea.Domain.CandidateReconciliation
import LotusIdea.Domain.Control
import LotusIdea.Domain.ConversionGovernance
import LotusIdea.Domain.DataLifecycle
import LotusIdea.Domain.DownstreamSubmission
import LotusIdea.Domain.Enumerations
import LotusIdea.Domain.Ideas
import LotusIdea.Domain.IdentitySeparation
import LotusIdea.Domain.LifecycleSchedule
import LotusIdea.Domain.LineageIntegrity
import LotusIdea.Domain.OpportunityIdentity
import LotusIdea.Domain.OutcomeHistory
import LotusIdea.Domain.RankingEvaluation
import LotusIdea.Domain.RankingMetrics
import LotusIdea.Domain.RankingStability
import LotusIdea.Domain.Realization
import LotusIdea.Domain.ReportEvidence
import LotusIdea.Domain.ReviewAuthority
import LotusIdea.Domain.ReviewGovernance
import LotusIdea.Domain.ReviewQueue
import LotusIdea.Domain.ReviewStates
import LotusIdea.Domain.ScoreBounds
import LotusIdea.Domain.Scoring
import LotusIdea.Domain.SourceRevision
import LotusIdea.Domain.StateErrors
import LotusIdea.Domain.SubmissionTransitions
import LotusIdea.Domain.Vocabulary
import LotusIdea.Downstream.RealizationRuns
import LotusIdea.Downstream.ReconciliationReplay
import LotusIdea.Downstream.ScopedIdentities
import LotusIdea.Downstream.SubmissionStateMachine
import LotusIdea.Foundation.ActionIndex
import LotusIdea.Foundation.Calendar
import LotusIdea.Foundation.CanonicalJson
import LotusIdea.Foundation.Checked
import LotusIdea.Foundation.DecimalText
import LotusIdea.Foundation.Digest
import LotusIdea.Foundation.Footrule
import LotusIdea.Foundation.JsonGaps
import LotusIdea.Foundation.JsonPayload
import LotusIdea.Foundation.JsonText
import LotusIdea.Foundation.OrderedDict
import LotusIdea.Foundation.OrderedRows
import LotusIdea.Foundation.Runs
import LotusIdea.Foundation.SqlQuery
import LotusIdea.Foundation.SqlRow
import LotusIdea.Foundation.Trails
import LotusIdea.Foundation.Values
import LotusIdea.Foundation.VersionLedger
import LotusIdea.Migrations.DeploymentRuns
import LotusIdea.Migrations.SqlStatements
import LotusIdea.Outbox.Delivery
import LotusIdea.Outbox.DeliveryRuns
import LotusIdea.Outbox.DeliverySafety
import LotusIdea.Outbox.Events
import LotusIdea.Outbox.SystemLineage
import LotusIdea.Postgres.ArchiveCoverage
import LotusIdea.Postgres.CandidateJson
import LotusIdea.Postgres.CandidateTable
import LotusIdea.Postgres.CodecLosslessness
import LotusIdea.Postgres.DataLifecycleStore
import LotusIdea.Postgres.ErasedVisibility
import LotusIdea.Postgres.LegacyAuthority
import LotusIdea.Postgres.LegacyPayloads
import LotusIdea.Postgres.LifecycleAnswers
import LotusIdea.Postgres.LifecycleRuns
import LotusIdea.Postgres.LineageJson
import LotusIdea.Postgres.OutboxFailures
import LotusIdea.Postgres.ReviewQueuePages
import LotusIdea.Postgres.ReviewQueueReadiness
import LotusIdea.Postgres.ReviewQueueTables
import LotusIdea.Postgres.SubmissionRow
import LotusIdea.Postgres.UnitOfWorkRuns
import LotusIdea.Repository.AuditTrail
import LotusIdea.Repository.CandidateTimes
import LotusIdea.Repository.ErrorAtomicity
import LotusIdea.Repository.EvidenceReplay
import LotusIdea.Repository.IntentAuthority
import LotusIdea.Repository.KeyBinding
import LotusIdea.Repository.KeyPermanence
import LotusIdea.Repository.LifecycleHistories
import LotusIdea.Repository.Lineage
import LotusIdea.Repository.Mutations
import LotusIdea.Repository.OutboxFreshness
import LotusIdea.Repository.OutcomeRuns
import LotusIdea.Repository.ReconciliationFrame
import LotusIdea.Repository.RecordedActions
import LotusIdea.Repository.ReviewIdentities
import LotusIdea.Repository.ReviewPostures
import LotusIdea.Repository.RevokedAuthority
import LotusIdea.Repository.StateErrors
import LotusIdea.Repository.Suppression
import LotusIdea.Repository.TenantIsolation
import LotusIdea.Repository.Writes
import LotusIdea.Signals.Cashflow
import LotusIdea.Signals.Eligibility
import LotusIdea.Signals.Evaluation
import LotusIdea.Signals.FailClosed
import LotusIdea.Signals.Families
import LotusIdea.Signals.Gaps
import LotusIdea.Signals.Portfolio
import LotusIdea.Signals.Risk
