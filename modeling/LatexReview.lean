import LatexReview.Detex.Basic
import LatexReview.Text.Case
import LatexReview.Json.Reader
import LatexReview.Problem.Draft
import LatexReview.Suppression.Record
import LatexReview.ProblemSet
import LatexReview.Store.Execution
import LatexReview.Problem.Json
import LatexReview.Config.Reader
import LatexReview.Document.Include
import LatexReview.Aggregate
import LatexReview.CommandLine.Run
import LatexReview.Main
import LatexReview.Proofs.LineIndex
import LatexReview.Proofs.Detex.Construct
import LatexReview.Proofs.Detex.Manuscript
import LatexReview.Proofs.Detex.Origin
import LatexReview.Proofs.Detex.CharMap
import LatexReview.Proofs.Suppression.Consistent
import LatexReview.Proofs.Suppression.LineByLine
import LatexReview.Proofs.Suppression.Blocks
import LatexReview.Proofs.Store.Append
import LatexReview.Proofs.Whitelist.Reload
import LatexReview.Proofs.Whitelist.Growth
import LatexReview.Proofs.Problem.Uid
import LatexReview.Proofs.ProblemSet.Latest
import LatexReview.Proofs.ProblemSet.Rerun
import LatexReview.Proofs.Aggregate.Merge
import LatexReview.Proofs.Checker.Stamp
import LatexReview.Proofs.Detex.Flaws
import LatexReview.Proofs.Detex.Environment
import LatexReview.Proofs.Checker.Structure
import LatexReview.Proofs.Bibliography.Duplicates
import LatexReview.Proofs.Checker.Chktex
import LatexReview.Proofs.Checker.Answer
import LatexReview.Proofs.Whitelist.Wordlist
import LatexReview.Proofs.Detex.Locality
import LatexReview.Proofs.Bibliography.Written
import LatexReview.Proofs.Style.Comment
import LatexReview.Proofs.Translator
import LatexReview.Proofs.Detex.Comment
import LatexReview.Proofs.Document.Collection
import LatexReview.Proofs.Config.Form
import LatexReview.Proofs.Config.Written
import LatexReview.Proofs.Problem.Display
import LatexReview.Proofs.LineIndex.Order
import LatexReview.Proofs.Bibliography.Formatting
import LatexReview.Proofs.Bibliography.Symmetry
import LatexReview.Proofs.Report
import LatexReview.Proofs.Checker.Offset
import LatexReview.Proofs.Problem.Key
import LatexReview.Proofs.Detex.Brace
import LatexReview.Proofs.Style.Argument
import LatexReview.Proofs.Document.CommentSign
