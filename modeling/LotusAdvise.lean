import LotusAdvise.Proposals.ExecutionGate
import LotusAdvise.Proposals.Writes
import LotusAdvise.Proposals.InMemory
import LotusAdvise.Proposals.Aggregate
import LotusAdvise.Proposals.VersionImmutability
import LotusAdvise.Proposals.RetryEffects
import LotusAdvise.Proposals.Ledger
import LotusAdvise.Proposals.KeyReuse
import LotusAdvise.Proposals.ReplaySoundness
import LotusAdvise.Proposals.UpdateRedelivery
import LotusAdvise.Foundations.Tables
import LotusAdvise.Proposals.Postgres
import LotusAdvise.Proposals.EventOrder
import LotusAdvise.Proposals.CreateIdempotency
import LotusAdvise.Proposals.VersionFailure
import LotusAdvise.Proposals.TerminalStates
import LotusAdvise.Foundations.Pairing
import LotusAdvise.Proposals.ApprovalEvidence
import LotusAdvise.Proposals.LastEvent
import LotusAdvise.Proposals.CockpitAcknowledgements
import LotusAdvise.Foundations.Pagination
import LotusAdvise.Proposals.Listing
import LotusAdvise.Proposals.ListingWalk
import LotusAdvise.Foundations.Workers
import LotusAdvise.Proposals.Memos
import LotusAdvise.Proposals.MemoIdempotency
import LotusAdvise.Proposals.AsyncOperations
import LotusAdvise.Proposals.AsyncControl
import LotusAdvise.Proposals.AsyncRepository
import LotusAdvise.Proposals.AsyncWorkers
import LotusAdvise.Proposals.TerminalOperations
import LotusAdvise.Proposals.LeaseExclusion
import LotusAdvise.Foundations.Dict
import LotusAdvise.Foundations.NumberedLogs
import LotusAdvise.PolicyPacks.EvaluationLog
import LotusAdvise.PolicyPacks.EvaluationCommands
import LotusAdvise.Proposals.AsyncEffects
import LotusAdvise.PolicyPacks.ReceiptIdentity
import LotusAdvise.PolicyPacks.CatalogLog
import LotusAdvise.PolicyPacks.CatalogDefinitions
import LotusAdvise.PolicyPacks.CatalogLog
import LotusAdvise.Foundations.SingleActive
import LotusAdvise.PolicyPacks.EvaluationAppends
import LotusAdvise.PolicyPacks.KeyRebinding
import LotusAdvise.PolicyPacks.Workflow
import LotusAdvise.PolicyPacks.WorkflowCommands
import LotusAdvise.PolicyPacks.EvaluationView
import LotusAdvise.PolicyPacks.SignOff
import LotusAdvise.PolicyPacks.LatestDecision
import LotusAdvise.PolicyPacks.LatestDecision
import LotusAdvise.Advisory.Valuation
import LotusAdvise.Advisory.Funding
import LotusAdvise.Advisory.IntentPlan
import LotusAdvise.Advisory.PlanEffects
import LotusAdvise.Advisory.ExecutablePlan
import LotusAdvise.Advisory.Review
import LotusAdvise.Advisory.ValueIdentity
import LotusAdvise.Advisory.FundingLedger
import LotusAdvise.Foundations.Balance
import LotusAdvise.Advisory.Solvency
import LotusAdvise.Advisory.FundingReserve
import LotusAdvise.Workspace.Sessions
import LotusAdvise.Workspace.DraftActions
import LotusAdvise.Workspace.Evaluation
import LotusAdvise.Workspace.Versions
import LotusAdvise.Workspace.Handoffs
import LotusAdvise.Workspace.Postgres
import LotusAdvise.Workspace.Commands
import LotusAdvise.Workspace.SavedEvidence
import LotusAdvise.Workspace.VersionRetention
import LotusAdvise.Workspace.LifecycleCalls
import LotusAdvise.Workspace.LinkedProposal
import LotusAdvise.Workspace.HandoffRecovery
import LotusAdvise.Foundations.Words
import LotusAdvise.AdvisorCockpit.References
import LotusAdvise.AdvisorCockpit.ActionItems
import LotusAdvise.AdvisorCockpit.ActionIdentity
import LotusAdvise.AdvisorCockpit.ActionSources
import LotusAdvise.Advisory.FundingFailures
import LotusAdvise.Advisory.FundingRounding
import LotusAdvise.Advisory.Readiness
import LotusAdvise.Advisory.Suitability
import LotusAdvise.Advisory.SuitabilityResult
import LotusAdvise.Advisory.WorkflowGate
import LotusAdvise.Foundations.Weights
import LotusAdvise.Advisory.SuitabilitySoundness
import LotusAdvise.Advisory.ShelfRows
import LotusAdvise.Proposals.AsyncOperationRunner
import LotusAdvise.Foundations.SortedPages
import LotusAdvise.Proposals.AsyncControlListing
import LotusAdvise.AdvisorCockpit.Acknowledgements
import LotusAdvise.AdvisorCockpit.AcknowledgementReplay
import LotusAdvise.Foundations.Alongside
import LotusAdvise.AdvisorCockpit.SourceProjections
import LotusAdvise.AdvisorCockpit.SourceLoader
import LotusAdvise.AdvisorCockpit.Service
import LotusAdvise.AdvisorCockpit.TextChecks
import LotusAdvise.AdvisorCockpit.ActionQueue
import LotusAdvise.AdvisorCockpit.Revalidation
import LotusAdvise.AdvisorCockpit.VolumeLimits
import LotusAdvise.Foundations.Payloads
import LotusAdvise.Advisory.Drift
import LotusAdvise.Advisory.DecisionSupport
import LotusAdvise.Advisory.ResultPayload
import LotusAdvise.Advisory.SourceEffects
import LotusAdvise.AdvisoryCopilot.AdapterAgreement
import LotusAdvise.Foundations.HalfDistance
import LotusAdvise.Advisory.Allocations
import LotusAdvise.Advisory.DriftDistance
import LotusAdvise.Advisory.Divisions
import LotusAdvise.PolicyPacks.Applicability
import LotusAdvise.AdvisoryCopilot.ClaimGrounding
import LotusAdvise.Foundations.Base64
import LotusAdvise.AdvisoryCopilot.Guardrails
import LotusAdvise.AdvisoryCopilot.EncodedPhrases
import LotusAdvise.Foundations.JsonStrings
import LotusAdvise.Foundations.IsoTexts
import LotusAdvise.Foundations.KeysetWalk
import LotusAdvise.AdvisoryCopilot.RunPages
import LotusAdvise.AdvisoryCopilot.RunListings
import LotusAdvise.AdvisoryCopilot.RunWalk
import LotusAdvise.Foundations.Durations
import LotusAdvise.Foundations.ExpiringRegistry
import LotusAdvise.Proposals.IdeaIntake
import LotusAdvise.Proposals.IdeaIntakeReplay
import LotusAdvise.Alternatives.BatchPartition
import LotusAdvise.Alternatives.RotationSoundness
import LotusAdvise.Alternatives.CashRaising
import LotusAdvise.Foundations.RecencyDicts
import LotusAdvise.LotusCore.TimedCache
import LotusAdvise.LotusCore.CacheHistory
import LotusAdvise.Foundations.StableSorts
import LotusAdvise.Foundations.JsonCodes
import LotusAdvise.Foundations.DictKeys
import LotusAdvise.Foundations.CanonicalJson
import LotusAdvise.HouseView.Cohorts
import LotusAdvise.HouseView.CohortIdentity
import LotusAdvise.HouseView.CohortAddresses
import LotusAdvise.Workspace.SessionRepositories
import LotusAdvise.Workspace.DraftAtomicity
import LotusAdvise.Foundations.JsonPaths
import LotusAdvise.Foundations.ObjectHeaps
import LotusAdvise.PolicyPacks.StableReasons
import LotusAdvise.PolicyPacks.ReasonCopies
import LotusAdvise.Foundations.FieldRounding
import LotusAdvise.Targets.SolverProblem
import LotusAdvise.Targets.InfeasibilityHints
import LotusAdvise.Targets.SolvedTargets
import LotusAdvise.Targets.TargetLimits
import LotusAdvise.Foundations.ExtendedDecimals
import LotusAdvise.Foundations.DecimalSyntax
import LotusAdvise.Foundations.FirstFailures
import LotusAdvise.LotusCore.PayloadValues
import LotusAdvise.LotusCore.PayloadTranslation
import LotusAdvise.LotusCore.SourceCompleteness
import LotusAdvise.LotusCore.TranslatedPayloads
import LotusAdvise.Foundations.Calls
import LotusAdvise.LotusCore.SourceReads
import LotusAdvise.LotusCore.TradeDraftHydration
import LotusAdvise.LotusCore.HydratedDrafts
import LotusAdvise.LotusCore.HydrationCaches
import LotusAdvise.AdvisoryCopilot.Reviews
