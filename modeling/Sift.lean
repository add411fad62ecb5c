import Sift.Main
import Sift.Pattern.Adapter
import Sift.Pattern.Session
import Sift.Proofs.Absence
import Sift.Proofs.Amortised
import Sift.Proofs.BeyondLimit
import Sift.Proofs.Bounds
import Sift.Proofs.Captures
import Sift.Proofs.Composition
import Sift.Proofs.Congruence
import Sift.Proofs.Containment
import Sift.Proofs.Correlation
import Sift.Proofs.DepthLimit
import Sift.Proofs.Discovery
import Sift.Proofs.Displays
import Sift.Proofs.Edits
import Sift.Proofs.Extension
import Sift.Proofs.Formats
import Sift.Proofs.Globs
import Sift.Proofs.Governed
import Sift.Proofs.History
import Sift.Proofs.Independence
import Sift.Proofs.Integers
import Sift.Proofs.Inversion
import Sift.Proofs.Languages
import Sift.Proofs.LineRecords
import Sift.Proofs.Lookups
import Sift.Proofs.Modes
import Sift.Proofs.NumberTests
import Sift.Proofs.NumbersInLists
import Sift.Proofs.Reports
import Sift.Proofs.SubPatterns
import Sift.Proofs.Variables
import Sift.Text.Quoted
import Sift.Value.Display
