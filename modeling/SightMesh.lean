import SightMesh.Properties.Absence
import SightMesh.Properties.Admission
import SightMesh.Properties.Attribution
import SightMesh.Properties.Baselines
import SightMesh.Properties.BatchRefusal
import SightMesh.Properties.Budget
import SightMesh.Properties.BudgetReset
import SightMesh.Properties.Capacity
import SightMesh.Properties.Checkpoints
import SightMesh.Properties.ChildLimit
import SightMesh.Properties.ChildStarts
import SightMesh.Properties.Cooldowns
import SightMesh.Properties.EscalationOutcome
import SightMesh.Properties.ExecutionTokens
import SightMesh.Properties.Fencing
import SightMesh.Properties.HugeIntegers
import SightMesh.Properties.Isolation
import SightMesh.Properties.JsonRedaction
import SightMesh.Properties.LateFindings
import SightMesh.Properties.Launches
import SightMesh.Properties.Leases
import SightMesh.Properties.LifecycleKeys
import SightMesh.Properties.LossLock
import SightMesh.Properties.LossReports
import SightMesh.Properties.LossVerdicts
import SightMesh.Properties.NativeRecords
import SightMesh.Properties.ParkedKeys
import SightMesh.Properties.Policies
import SightMesh.Properties.Rebuild
import SightMesh.Properties.Regrouping
import SightMesh.Properties.Reorder
import SightMesh.Properties.Requeues
import SightMesh.Properties.Rerouting
import SightMesh.Properties.Reservations
import SightMesh.Properties.Rotation
import SightMesh.Properties.Routing
import SightMesh.Properties.RunLife
import SightMesh.Properties.RunReceipts
import SightMesh.Properties.SettingsRoundTrip
import SightMesh.Properties.Stranded
import SightMesh.Properties.Subscriptions
import SightMesh.Properties.Succession
import SightMesh.Properties.Tiling
import SightMesh.Properties.Verdicts
import SightMesh.Properties.WakeCap
import SightMesh.Properties.WakeDelivery
import SightMesh.Properties.WorkspaceMappings
import SightMesh.Properties.Handover
import SightMesh.Properties.Replay
import SightMesh.Properties.Activation
import SightMesh.Properties.Decisions
import SightMesh.Properties.Responses
import SightMesh.Properties.Injection
import SightMesh.Properties.Attention
import SightMesh.Properties.Inbox
