import ExperimentControl.Sequencer.SizeGuard
import ExperimentControl.Supervision.Escalation
import ExperimentControl.Supervision.Silences
import ExperimentControl.Hdf.Attribution
import ExperimentControl.Hdf.ExpectedContexts
import ExperimentControl.Sequencer.PlanSteps
import ExperimentControl.ScanPlan
import ExperimentControl.Analysis.Traces
import ExperimentControl.Analysis.Faithful
import ExperimentControl.Sequencer.ParallelTargets
import ExperimentControl.Sequencer.Outputs
import ExperimentControl.Sequencer.Bookkeeping
import ExperimentControl.Sequencer.Trials
import ExperimentControl.Interlock.Check
import ExperimentControl.Router.Inflight
import ExperimentControl.Watchdog.ConditionTrace
import ExperimentControl.Watchdog.Streaks
import ExperimentControl.Shm.Quiescent
import ExperimentControl.Supervision.Stops
import ExperimentControl.Supervision.Policy
import ExperimentControl.Supervision.Budget
import ExperimentControl.Supervision.Isolation
import ExperimentControl.Supervision.Incarnations
import ExperimentControl.Supervision.Connects
import ExperimentControl.Hdf.Isolation
import ExperimentControl.InstanceLock
import ExperimentControl.CommandJournal
import ExperimentControl.Analysis.Reload
import ExperimentControl.Analysis.Snapshots
import ExperimentControl.Analysis.Contexts
import ExperimentControl.Analysis.Cursor
import ExperimentControl.Manager.ChunkReady
import ExperimentControl.Federation.PeerEvents
import ExperimentControl.Federation.Hops
import ExperimentControl.Federation.ForwardWorkers
import ExperimentControl.Federation.Warmup
import ExperimentControl.Sequencer.SetContext
import ExperimentControl.Sequencer.Stability
import ExperimentControl.Sequencer.AdaptiveSpace
import ExperimentControl.Sequencer.Estimates
import ExperimentControl.Sequencer.Custody
import ExperimentControl.Driver.Reports
import ExperimentControl.Driver.StreamAlignment
import ExperimentControl.Gateway.Correlation
import ExperimentControl.Influx.Shutdown
import ExperimentControl.Browser.Workspaces
import ExperimentControl.Editor.Entries
import ExperimentControl.Decimation.Envelope
import ExperimentControl.StateMachine.History
import ExperimentControl.Analysis.TelemetryHistory
import ExperimentControl.Logs.RotatingJsonl
import ExperimentControl.Sequencer.ResumedStudy
import ExperimentControl.Driver.StreamSchedule
import ExperimentControl.Influx.Overflow
import ExperimentControl.Manager.TelemetryCache
