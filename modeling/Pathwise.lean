import Pathwise.Main
import Pathwise.Session
import Pathwise.Proofs.Components
import Pathwise.Proofs.Concatenation
import Pathwise.Proofs.Reduction
import Pathwise.Proofs.Canonical
import Pathwise.Proofs.NetworkRoots
import Pathwise.Proofs.RoundTrip
import Pathwise.Proofs.Continuations
import Pathwise.Proofs.Bases
import Pathwise.Proofs.Stages
import Pathwise.Proofs.Splitting
import Pathwise.Proofs.Grammar
import Pathwise.Proofs.DirectoryChanges
import Pathwise.Proofs.Absoluteness
import Pathwise.Proofs.Spelling
import Pathwise.Proofs.Respelling
import Pathwise.Proofs.Meaning
import Pathwise.Proofs.Calls
import Pathwise.Proofs.Runs
import Pathwise.Proofs.Snapshots
import Pathwise.Proofs.Failures
import Pathwise.Proofs.Options
import Pathwise.Proofs.CommandLines
import Pathwise.Proofs.Operands
import Pathwise.Proofs.Clamping
import Pathwise.Proofs.ShortestRoutes
import Pathwise.Proofs.Containment
import Pathwise.Proofs.Ancestors
import Pathwise.Proofs.Decisions
import Pathwise.Proofs.Terminals
import Pathwise.Proofs.Printing
import Pathwise.Proofs.Quotations
import Pathwise.Proofs.Records
import Pathwise.Proofs.Diagnostics
import Pathwise.Proofs.Extensions
import Pathwise.Proofs.StyleNames
