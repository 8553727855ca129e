import PriorityKernel.Guards
import PriorityKernel.Log.Console
import PriorityKernel.Machine.Report
import PriorityKernel.Device.IntervalTimer
import PriorityKernel.Proofs.QueueInvariant
import PriorityKernel.Proofs.StrictPriority
import PriorityKernel.Proofs.SwitchChain
import PriorityKernel.Proofs.MessageLedger
import PriorityKernel.Proofs.NoLostWakeup
import PriorityKernel.Proofs.TimerDelivery
import PriorityKernel.Proofs.SchedulerTicks
import PriorityKernel.Proofs.PreemptionLatency
import PriorityKernel.Proofs.LockDiscipline
import PriorityKernel.Proofs.InterruptFlag
import PriorityKernel.Proofs.PreparedContexts
import PriorityKernel.Proofs.LayerReplies
import PriorityKernel.Proofs.RoundRobin
import PriorityKernel.Proofs.BlinkChains
import PriorityKernel.Proofs.KeyboardDecoding
import PriorityKernel.Proofs.LogIndependence
import PriorityKernel.Proofs.Refusals
import PriorityKernel.Proofs.LevelLaws
import PriorityKernel.Proofs.OwnTask
import PriorityKernel.Proofs.ContextIntegrity
import PriorityKernel.Proofs.KeyboardPolling
import PriorityKernel.Proofs.LoopDrains
import PriorityKernel.Proofs.WaitingForMessages
import PriorityKernel.Proofs.SerialOutput
