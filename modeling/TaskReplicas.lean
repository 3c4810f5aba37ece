import TaskReplicas.Clock
import TaskReplicas.Decimal.Double
import TaskReplicas.Decimal.Fixed
import TaskReplicas.Decimal.Integer
import TaskReplicas.Decimal.Shortest
import TaskReplicas.Event
import TaskReplicas.Fault
import TaskReplicas.Json.Defect
import TaskReplicas.Json.Nesting
import TaskReplicas.Json.Number
import TaskReplicas.Json.Quoted
import TaskReplicas.Json.Token
import TaskReplicas.Main
import TaskReplicas.Operation.Basic
import TaskReplicas.Operation.Diagnostic
import TaskReplicas.Operation.Fields
import TaskReplicas.Operation.KindReader
import TaskReplicas.Operation.LogReader
import TaskReplicas.Operation.Message
import TaskReplicas.Operation.Mismatch
import TaskReplicas.Operation.Reader
import TaskReplicas.Operation.Text
import TaskReplicas.Proofs.Absorption
import TaskReplicas.Proofs.ArgumentOrder
import TaskReplicas.Proofs.BoxRows
import TaskReplicas.Proofs.ByteOrder
import TaskReplicas.Proofs.CanonicalStates
import TaskReplicas.Proofs.CanonicalText
import TaskReplicas.Proofs.CleanProgram
import TaskReplicas.Proofs.CleanRuns
import TaskReplicas.Proofs.ClockCalls
import TaskReplicas.Proofs.Convergence
import TaskReplicas.Proofs.CutText
import TaskReplicas.Proofs.DecimalDigits
import TaskReplicas.Proofs.DrawnOperations
import TaskReplicas.Proofs.DrawnRounds
import TaskReplicas.Proofs.GivenFields
import TaskReplicas.Proofs.Independence
import TaskReplicas.Proofs.JsonText
import TaskReplicas.Proofs.JsonValues
import TaskReplicas.Proofs.LogLines
import TaskReplicas.Proofs.LogMeaning
import TaskReplicas.Proofs.LoggedDecisions
import TaskReplicas.Proofs.MessageRoundTrip
import TaskReplicas.Proofs.ObjectEntries
import TaskReplicas.Proofs.Rebase
import TaskReplicas.Proofs.Renaming
import TaskReplicas.Proofs.RoundCounts
import TaskReplicas.Proofs.RoundCuts
import TaskReplicas.Proofs.Rulings
import TaskReplicas.Proofs.SameEffect
import TaskReplicas.Proofs.SeededContent
import TaskReplicas.Proofs.SeededTasks
import TaskReplicas.Proofs.SharedClock
import TaskReplicas.Proofs.Survival
import TaskReplicas.Proofs.TaskNames
import TaskReplicas.Proofs.ThreeWay
import TaskReplicas.Proofs.Truncation
import TaskReplicas.Proofs.UsableConfig
import TaskReplicas.Proofs.WorkerPool
import TaskReplicas.Replica.Basic
import TaskReplicas.Replica.Seeded
import TaskReplicas.Sampling.Bounded
import TaskReplicas.Sampling.ChaCha
import TaskReplicas.Sampling.Words
import TaskReplicas.Stress.Check
import TaskReplicas.Stress.Config
import TaskReplicas.Stress.Environment
import TaskReplicas.Stress.Generator
import TaskReplicas.Stress.Pool
import TaskReplicas.Stress.Report
import TaskReplicas.Stress.Run
import TaskReplicas.Text.Column
import TaskReplicas.Text.Literal
import TaskReplicas.Text.Visible
import TaskReplicas.Transform.Basic
import TaskReplicas.Transform.Rule
import TaskReplicas.Proofs.WorkerPool
