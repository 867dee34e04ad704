import RuleHost.Main
import RuleHost.Scenario.Play
import RuleHost.Proofs.LoopHistory
import RuleHost.Proofs.LoopMoves
import RuleHost.Proofs.LoopSteps
import RuleHost.Proofs.TimerLedger
import RuleHost.Proofs.TimerFates
import RuleHost.Proofs.LoopClock
import RuleHost.Proofs.LoopDebts
import RuleHost.Proofs.TaskRecords
import RuleHost.Proofs.TaskFates
import RuleHost.Proofs.DeadlineOrder
import RuleHost.Proofs.ContinuationCounts
import RuleHost.Proofs.ContinuationRuns
import RuleHost.Proofs.LoopDrain
import RuleHost.Proofs.RunAgreement
import RuleHost.Proofs.TaskDischarge
import RuleHost.Proofs.LoopTeardown
import RuleHost.Proofs.LoopLives
import RuleHost.Proofs.ScriptProgress
import RuleHost.Proofs.ContinuationOrder
import RuleHost.Proofs.ContinuationCausality
import RuleHost.Proofs.DeferredObservers
import RuleHost.Proofs.LoopAbandonment
import RuleHost.Proofs.HostConfinement
import RuleHost.Proofs.ProgramRuns
import RuleHost.Proofs.HonestActs
import RuleHost.Proofs.Publishing
import RuleHost.Proofs.WrittenValue
import RuleHost.Proofs.WrittenDocument
import RuleHost.Proofs.ConfigRoundTrip
import RuleHost.Proofs.HonestScripts
import RuleHost.Proofs.HelloSteps
import RuleHost.Proofs.HelloRuns
import RuleHost.Proofs.StandardOutput
import RuleHost.Proofs.ConfigSources
import RuleHost.Proofs.RecountedRuns
import RuleHost.Proofs.RecountedScenarios
import RuleHost.Proofs.ConfigFields
import RuleHost.Proofs.ThingHistory
import RuleHost.Proofs.StateInstances
import RuleHost.Proofs.PendingTasks
import RuleHost.Proofs.HelloCalls
import RuleHost.Proofs.LateWrite
import RuleHost.Proofs.SubscriptionHistory
import RuleHost.Proofs.RegistryHistory
import RuleHost.Proofs.ClearedDelays
import RuleHost.Proofs.FailedStarts
import RuleHost.Proofs.ValueEquality
import RuleHost.Proofs.IntegerConversion
