import DualMode.Script.Session
import DualMode.Settings.Load
import DualMode.Literal.Json
import DualMode.Proofs.Modes
import DualMode.Proofs.Memoisation
import DualMode.Proofs.UpdateRule
import DualMode.Proofs.Target
import DualMode.Proofs.Nesting
import DualMode.Proofs.Race
import DualMode.Proofs.SetList
import DualMode.Proofs.Interchange
import DualMode.Proofs.Like
import DualMode.Proofs.Roster
import DualMode.Proofs.Identity
import DualMode.Proofs.Arithmetic
import DualMode.Proofs.Folding
import DualMode.Proofs.Chains
import DualMode.Proofs.LastWriter
import DualMode.Proofs.Loss
import DualMode.Proofs.Comparison
import DualMode.Proofs.Columns
import DualMode.Proofs.FirstSuccess
import DualMode.Proofs.Members
import DualMode.Proofs.Lineage
import DualMode.Proofs.Operands
import DualMode.Proofs.Parts
import DualMode.Proofs.Counterpart
import DualMode.Proofs.Rebinding
import DualMode.Proofs.RoundTrip
import DualMode.Proofs.Precedence
