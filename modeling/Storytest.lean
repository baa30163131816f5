import Storytest.Text.Class
import Storytest.Text.Quoted
import Storytest.Text.ShortName
import Storytest.Text.Infix
import Storytest.Text.Numeral
import Storytest.Table.Sorted
import Storytest.Store.Descending
import Storytest.Signature
import Storytest.Failure.Basic
import Storytest.Resolution
import Storytest.Arguments
import Storytest.Evaluation
import Storytest.Scenario
import Storytest.Script.Catalogue
import Storytest.Script.Provider
import Storytest.Decimal.Reader
import Storytest.Decimal.Shortest
import Storytest.Settings.Layers
import Storytest.Recorder
import Storytest.Source.Lexer
import Storytest.Expansion.StepCall
import Storytest.Expansion.OutputInstance
import Storytest.Proofs.Resolution
import Storytest.Proofs.Binding
import Storytest.Proofs.Run
import Storytest.Proofs.Pending
import Storytest.Proofs.Latest
import Storytest.Proofs.Trail
import Storytest.Proofs.Outcome
import Storytest.Proofs.Commit
import Storytest.Proofs.Threading
import Storytest.Proofs.Noting
import Storytest.Proofs.Following
import Storytest.Proofs.Life
import Storytest.Proofs.Order
import Storytest.Proofs.Authentication
import Storytest.Proofs.Gathering
import Storytest.Proofs.Interleaving
import Storytest.Proofs.Interlude
import Storytest.Proofs.Origin
import Storytest.Proofs.Guards
import Storytest.Proofs.Eagerness
import Storytest.Proofs.Selection
import Storytest.Proofs.Blame
import Storytest.Proofs.Cursor
import Storytest.Proofs.Absence
import Storytest.Proofs.Wrapping
import Storytest.Proofs.Places
import Storytest.Proofs.Writing
import Storytest.Proofs.Naming
import Storytest.Proofs.Numerals
import Storytest.Proofs.Ranking
import Storytest.Proofs.Conversion
import Storytest.Proofs.Reporting
import Storytest.Proofs.Shortening
import Storytest.Proofs.Piecewise
import Storytest.Proofs.Qualifying
import Storytest.Proofs.Agreement
import Storytest.Proofs.Stripping
import Storytest.Proofs.Quoting
import Storytest.Proofs.Spelling
import Storytest.Proofs.Layering
import Storytest.Proofs.Instances
