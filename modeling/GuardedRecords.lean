import GuardedRecords.LogEvent
import GuardedRecords.Main
import GuardedRecords.Web.Application
import GuardedRecords.Proofs.StoreChanges
import GuardedRecords.Proofs.TableUpdates
import GuardedRecords.Proofs.RecordFields
import GuardedRecords.Proofs.Authorization
import GuardedRecords.Proofs.Mediation
import GuardedRecords.Proofs.OwnerProtection
import GuardedRecords.Proofs.RuleVariables
import GuardedRecords.Proofs.Redaction
import GuardedRecords.Proofs.HiddenProperties
import GuardedRecords.Proofs.JoinedRecords
import GuardedRecords.Proofs.WithheldChanges
import GuardedRecords.Proofs.StoreRuns
import GuardedRecords.Proofs.SystemFields
import GuardedRecords.Proofs.StoreHistory
import GuardedRecords.Proofs.IdentityRuns
import GuardedRecords.Proofs.Sessions
import GuardedRecords.Proofs.FailedOperations
import GuardedRecords.Proofs.RuleParsing
import GuardedRecords.Proofs.PolicyResolution
import GuardedRecords.Proofs.FilterText
import GuardedRecords.Proofs.AdminFlag
import GuardedRecords.Proofs.StoredSecrets
import GuardedRecords.Proofs.FailedRequests
import GuardedRecords.Proofs.RegisteredUsers
import GuardedRecords.Proofs.ShownUsers
import GuardedRecords.Proofs.UniqueNames
import GuardedRecords.Proofs.CharacterClasses
import GuardedRecords.Proofs.RuleLexemes
import GuardedRecords.Proofs.OperatorSpelling
import GuardedRecords.Proofs.RuleText
import GuardedRecords.Proofs.FilterEvaluation
import GuardedRecords.Proofs.PolicyFlaws
import GuardedRecords.Proofs.RulesInForce
import GuardedRecords.Proofs.SeparateStores
import GuardedRecords.Proofs.InvalidTokens
import GuardedRecords.Proofs.JsonTokens
import GuardedRecords.Proofs.ReadingStops
import GuardedRecords.Proofs.Utf8Decoding
import GuardedRecords.Proofs.ReportedFaults
import GuardedRecords.Proofs.QuerySorting
import GuardedRecords.Proofs.FreshIds
import GuardedRecords.Proofs.ChangeTimes
import GuardedRecords.Proofs.RuleOrder
import GuardedRecords.Proofs.Verdicts
import GuardedRecords.Proofs.ListedRecords
import GuardedRecords.Proofs.EvaluationFaults
import GuardedRecords.Proofs.RedactionTurns
import GuardedRecords.Proofs.StoreQueries
import GuardedRecords.Proofs.LoginOutcomes
import GuardedRecords.Proofs.DistinctRecords
import GuardedRecords.Proofs.ClauseForms
import GuardedRecords.Proofs.LexemeLayout
import GuardedRecords.Proofs.ResultPages
import GuardedRecords.Proofs.RuleFaults
import GuardedRecords.Proofs.QueryParameters
import GuardedRecords.Proofs.LikeContainment
import GuardedRecords.Proofs.ParserTermination
