import Sketch.CommandLine
import Sketch.Main
import Sketch.Proofs.Checking
import Sketch.Proofs.Chunks
import Sketch.Proofs.Structured
import Sketch.Proofs.Moments
import Sketch.Proofs.Termination
import Sketch.Proofs.Naming
import Sketch.Proofs.Representation
import Sketch.Proofs.Coupling
import Sketch.Proofs.Strictness
import Sketch.Proofs.Plotting
import Sketch.Proofs.Ledger
import Sketch.Proofs.Innermost
import Sketch.Proofs.Deferral
import Sketch.Proofs.CallGraph
import Sketch.Proofs.HostCalls
import Sketch.Proofs.Lasting
import Sketch.Proofs.Frames
import Sketch.Proofs.Storage
import Sketch.Proofs.Orderliness
import Sketch.Proofs.Refusals
import Sketch.Proofs.ExitStatus
import Sketch.Proofs.Atomicity
import Sketch.Proofs.LeadingWord
import Sketch.Proofs.Operands
import Sketch.Proofs.Columns
import Sketch.Proofs.Skipping
import Sketch.Proofs.Closers
import Sketch.Proofs.Callable
