import HarvestTestbed.Number.Reciprocal
import HarvestTestbed.Number.Hexadecimal
import HarvestTestbed.Journal
import HarvestTestbed.Fault
import HarvestTestbed.Bitmap
import HarvestTestbed.Signal
import HarvestTestbed.Converter.Model
import HarvestTestbed.Harvester
import HarvestTestbed.Trace.Cache
import HarvestTestbed.Mailbox.Channel
import HarvestTestbed.Buffer.Pool
import HarvestTestbed.Buffer.FreeRing
import HarvestTestbed.Arena.SessionControl
import HarvestTestbed.Arena.HostEnd
import HarvestTestbed.Arena.SamplingEnd
import HarvestTestbed.Arena.TimingEnd
import HarvestTestbed.Sync.Controller
import HarvestTestbed.Sync.Client
import HarvestTestbed.Sync.Alignment
import HarvestTestbed.Sampling.Loop
import HarvestTestbed.Timing.Loop
import HarvestTestbed.Simulation.Frontend
import HarvestTestbed.Simulation.Timer
import HarvestTestbed.Host.MessagePump
import HarvestTestbed.Host.SyncService
import HarvestTestbed.Host.PeriodicTimer
import HarvestTestbed.Host.Device
import HarvestTestbed.Config.Load
import HarvestTestbed.Arena.Field
import HarvestTestbed.Proofs.Channel
import HarvestTestbed.Proofs.FreeRing
import HarvestTestbed.Proofs.Ledger
import HarvestTestbed.Proofs.Transfer
import HarvestTestbed.Proofs.Ownership
import HarvestTestbed.Proofs.Bench
import HarvestTestbed.Proofs.Custody
import HarvestTestbed.Proofs.EndToEnd
import HarvestTestbed.Proofs.ResetHandshake
import HarvestTestbed.Proofs.Restoration
import HarvestTestbed.Proofs.EdgePeriods
import HarvestTestbed.Proofs.NoLoss
import HarvestTestbed.Proofs.Accounting
import HarvestTestbed.Proofs.SyncBench
import HarvestTestbed.Proofs.Triggering
import HarvestTestbed.Proofs.FirstSample
import HarvestTestbed.Proofs.SyncExchange
import HarvestTestbed.Proofs.SyncTimeline
import HarvestTestbed.Proofs.InSync
import HarvestTestbed.Proofs.PeriodTimeline
import HarvestTestbed.Proofs.SamplingBench
import HarvestTestbed.Proofs.EngineReset
import HarvestTestbed.Proofs.Mirror
import HarvestTestbed.Proofs.Twins
import HarvestTestbed.Proofs.TwinRuns
import HarvestTestbed.Proofs.FreshRestart
import HarvestTestbed.Proofs.ControlLaw
import HarvestTestbed.Proofs.Staging
import HarvestTestbed.Proofs.ExchangeSteps
import HarvestTestbed.Proofs.SyncRounds
import HarvestTestbed.Proofs.DoubleRequest
import HarvestTestbed.Proofs.ActorFrames
import HarvestTestbed.Proofs.HostedBench
import HarvestTestbed.Proofs.Violations
import HarvestTestbed.Proofs.OnePlace
import HarvestTestbed.Proofs.Pacing
import HarvestTestbed.Proofs.TimelySamples
import HarvestTestbed.Proofs.PeriodPacing
import HarvestTestbed.Proofs.ExactPeriods
import HarvestTestbed.Proofs.StatusHistory
import HarvestTestbed.Proofs.Refusals
import HarvestTestbed.Proofs.SampleTriggers
import HarvestTestbed.Proofs.VoltageEnvelope
import HarvestTestbed.Proofs.OutputSwitches
import HarvestTestbed.Proofs.Prefetch
import HarvestTestbed.Proofs.PowerFlow
import HarvestTestbed.Proofs.HarvestEnvelope
import HarvestTestbed.Proofs.OpenCircuitTracking
import HarvestTestbed.Proofs.MaximumPower
import HarvestTestbed.Proofs.ControllerRestart
import HarvestTestbed.Proofs.BoundaryWait
import HarvestTestbed.Proofs.TriggerAlignment
import HarvestTestbed.Proofs.ExactScaling
import HarvestTestbed.Proofs.TableDivision
import HarvestTestbed.Proofs.DivisionOrder
import HarvestTestbed.Proofs.RoundTrip
import HarvestTestbed.Proofs.RingQueue
import HarvestTestbed.Proofs.WireFormat
import HarvestTestbed.Proofs.TickCounting
import HarvestTestbed.Proofs.SessionSetup
