import ExactWord.Checked
import ExactWord.Command.Arguments
import ExactWord.Command.LogFilter
import ExactWord.Command.Run
import ExactWord.Command.Tree
import ExactWord.Constant
import ExactWord.Export
import ExactWord.Interface
import ExactWord.Layout
import ExactWord.Main
import ExactWord.OperandType
import ExactWord.Pattern
import ExactWord.Pattern.Atom
import ExactWord.Pattern.Bracket
import ExactWord.Proofs.Bracketing
import ExactWord.Proofs.Catalogue
import ExactWord.Proofs.Checked
import ExactWord.Proofs.Containment
import ExactWord.Proofs.Course
import ExactWord.Proofs.Declarations
import ExactWord.Proofs.Directories
import ExactWord.Proofs.Exactness
import ExactWord.Proofs.Folding
import ExactWord.Proofs.Footprint
import ExactWord.Proofs.Guards
import ExactWord.Proofs.Inclusion
import ExactWord.Proofs.Inverse
import ExactWord.Proofs.Lines
import ExactWord.Proofs.Literals
import ExactWord.Proofs.Lockstep
import ExactWord.Proofs.Logging
import ExactWord.Proofs.Omission
import ExactWord.Proofs.Options
import ExactWord.Proofs.Places
import ExactWord.Proofs.Product
import ExactWord.Proofs.Range
import ExactWord.Proofs.Recomposition
import ExactWord.Proofs.Recovery
import ExactWord.Proofs.Register
import ExactWord.Proofs.Repetition
import ExactWord.Proofs.Saving
import ExactWord.Proofs.Spelling
import ExactWord.Proofs.TwosComplement
import ExactWord.Proofs.Wrapping
import ExactWord.Routine
import ExactWord.Text
import ExactWord.Text.Class
import ExactWord.Text.Visible
import ExactWord.Word
