import RoleGuard.Endpoint
import RoleGuard.Execution
import RoleGuard.Schema
import RoleGuard.Value.Text
import RoleGuard.Proofs.Running
import RoleGuard.Proofs.Compilation
import RoleGuard.Proofs.Mediation
import RoleGuard.Proofs.History
import RoleGuard.Proofs.Interleaving
import RoleGuard.Proofs.Configuration
import RoleGuard.Proofs.Noting
import RoleGuard.Proofs.Awaiting
import RoleGuard.Proofs.Enforcement
import RoleGuard.Proofs.Registration
import RoleGuard.Proofs.Steady
import RoleGuard.Proofs.Manners
import RoleGuard.Proofs.Scheduling
import RoleGuard.Proofs.Sharing
import RoleGuard.Proofs.Operating
import RoleGuard.Proofs.Containment
import RoleGuard.Proofs.Indifference
import RoleGuard.Proofs.Building
import RoleGuard.Proofs.DefaultPolicy
import RoleGuard.Proofs.StartUp
import RoleGuard.Proofs.Loading
import RoleGuard.Proofs.Preparation
import RoleGuard.Proofs.Footprint
import RoleGuard.Proofs.Combining
import RoleGuard.Proofs.Disjunction
import RoleGuard.Proofs.Scanning
import RoleGuard.Proofs.ContextKey
import RoleGuard.Proofs.Coverage
import RoleGuard.Proofs.RequestUser
import RoleGuard.Proofs.Misconfiguration
import RoleGuard.Proofs.Noninterference
import RoleGuard.Proofs.Serving
import RoleGuard.Proofs.Permanence
