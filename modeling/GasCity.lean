import GasCity.MergeReadiness
import GasCity.SnapshotInstall
import GasCity.FeedbackLoop
import GasCity.DepFill
import GasCity.OverlapRun
import GasCity.ReadyRun
import GasCity.ReadySort
import GasCity.FileContinuity
import GasCity.LoopCrashRecovery
import GasCity.LoopWithinBudget
import GasCity.LoopSettledRun
import GasCity.LoopFinal
import GasCity.EventSequenceRun
import GasCity.Multiplexer
import GasCity.EventTail
import GasCity.TornWrite
import GasCity.AttachOneWinner
import GasCity.AwakeScale
import GasCity.NudgeLeak
import GasCity.PoolResume
import GasCity.PoolScheduled
import GasCity.PoolUrgency
import GasCity.OrderBudget
import GasCity.OrderSingleFlight
import GasCity.DecisionHistory
import GasCity.DecisionPurged
import GasCity.ExecutionRuns
import GasCity.FormulaStep
import GasCity.RangeValidate
import GasCity.RecipeOrder
import GasCity.SeekPages
import GasCity.VersionResolve
import GasCity.MemAgree
import GasCity.CloseOrder
import GasCity.UpdateNoop
