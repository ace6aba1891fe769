import Ananke.ExternalSupervisor.Attempts
import Ananke.ExternalSupervisor.Chronology
import Ananke.ExternalSupervisor.Revocation
import Ananke.Grill.Reach
import Ananke.Lifecycle.Corruption
import Ananke.Lifecycle.Decision
import Ananke.Lifecycle.Journaling
import Ananke.Proposal.Endorsement
import Ananke.Proposal.Idempotency
import Ananke.ReadOnlyAdapter.Session
import Ananke.Repair.Chain
import Ananke.Repair.Jobs
import Ananke.Repair.Lineage
import Ananke.Repair.Timeliness
import Ananke.Store.Cancellation
import Ananke.Store.Handoff
import Ananke.Store.Settlement
import Ananke.Supervise.Safety
import Ananke.TrustedSupervisor.Cleanup
import Ananke.TrustedSupervisor.Terminal
import Ananke.Store.Reading
import Ananke.Store.Isolation
import Ananke.Store.Permanence
import Ananke.Repair.Freshness
import Ananke.TrustedSupervisor.Gateway
import Ananke.RepairSupervisor.Epochs
import Ananke.Repair.PrivateKey
import Ananke.Transport.Frame
import Ananke.Launch.Isolation
import Ananke.Repair.DiffPath
import Ananke.Lifecycle.Materialization
import Ananke.TrustedSupervisor.Paths
import Ananke.Canonical.Decimal
