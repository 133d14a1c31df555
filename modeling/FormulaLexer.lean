import FormulaLexer.Excerpt
import FormulaLexer.Run
import FormulaLexer.Proofs.Division
import FormulaLexer.Proofs.Scan
import FormulaLexer.Proofs.Layout
import FormulaLexer.Proofs.Grammar
import FormulaLexer.Proofs.Tracking
import FormulaLexer.Proofs.Offence
import FormulaLexer.Proofs.Place
import FormulaLexer.Proofs.Concatenation
import FormulaLexer.Proofs.Resumption
import FormulaLexer.Proofs.Recovery
import FormulaLexer.Proofs.Rounding
import FormulaLexer.Proofs.Shortest
import FormulaLexer.Proofs.Notation
import FormulaLexer.Proofs.Rendering
import FormulaLexer.Proofs.Extension
import FormulaLexer.Proofs.Progress
import FormulaLexer.Proofs.Trace
import FormulaLexer.Proofs.Caret
import FormulaLexer.Proofs.Advance
import FormulaLexer.Proofs.Lookup
import FormulaLexer.Proofs.Bounds
import FormulaLexer.Proofs.Token
import FormulaLexer.Proofs.Refusal
import FormulaLexer.Proofs.Fault
import FormulaLexer.Proofs.Nearest
import FormulaLexer.Proofs.Fraction
import FormulaLexer.Proofs.Reprint
import FormulaLexer.Proofs.Locality
import FormulaLexer.Proofs.Numeral
import FormulaLexer.Proofs.Quotation
import FormulaLexer.Proofs.TokenText
import FormulaLexer.PartialNumber
import FormulaLexer.Proofs.LongestNumber
