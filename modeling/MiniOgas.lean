import MiniOgas.StockRun
import MiniOgas.OutboxOrderRun
import MiniOgas.StatusHistory
import MiniOgas.AssetLaws
import MiniOgas.OrderLaws
import MiniOgas.GenealogyLaws
import MiniOgas.HoldLaws
import MiniOgas.SerialLaws
import MiniOgas.CompletionLaws
import MiniOgas.ToolLaws
import MiniOgas.CommandIdempotency
import MiniOgas.AgentReports
import MiniOgas.AgentLaws
import MiniOgas.AggregateLaws
import MiniOgas.RetentionLaws
import MiniOgas.LinkLaws
import MiniOgas.InterfaceLaws
import MiniOgas.DispatchCoupling
import MiniOgas.ReplayIsolation
import MiniOgas.PlanningLaws
import MiniOgas.RevisionRuns
import MiniOgas.CommandPersistence
import MiniOgas.TaskRefinement
import MiniOgas.ProjectionLaws
import MiniOgas.CredentialLaws
import MiniOgas.RestartLaws
import MiniOgas.ResultVocabulary
import MiniOgas.OrderReport
import MiniOgas.HeartbeatArchive
import MiniOgas.TelemetryIsolation
import MiniOgas.RoleAuthority
import MiniOgas.DocumentObjects
import MiniOgas.WorkOrderRelease
import MiniOgas.SupervisorStart
import MiniOgas.RateProposals
import MiniOgas.DispatchRebuild
import MiniOgas.RetryVerification
import MiniOgas.FactRecovery
import MiniOgas.RateControlLaws
import MiniOgas.RuleEvidence
import MiniOgas.HeartbeatAlarms
import MiniOgas.RateLimiter
import MiniOgas.SimulationEngines
import MiniOgas.IssueIds
import MiniOgas.AccessTokens
import MiniOgas.PreventiveSchedule
import MiniOgas.ReconciliationLaws
import MiniOgas.Migrations
