import FormulaLexer.Position
import FormulaLexer.Text.Quoted

namespace FormulaLexer

inductive Cause
  | illegalCharacter (character : String)
  | invalidNumber (literal : String)
deriving DecidableEq

namespace Cause

def name : Cause → String
  | .illegalCharacter _ => "Illegal Character"
  | .invalidNumber _ => "Invalid Number"

def details : Cause → String
  | .illegalCharacter character => character
  | .invalidNumber literal => literal

def tip? : Cause → Option String
  | .illegalCharacter _ => some "only digits, `.`, `+ - * / ( )`, spaces and tabs are allowed"
  | .invalidNumber _ => none

def text : Cause → String
  | .illegalCharacter character => "illegal character: " ++ Text.quoteString character
  | .invalidNumber literal => "error parsing number: " ++ Text.quoteString literal

end Cause

/-- An error reaches from the first character at fault to the position after the last. -/
structure Error where
  cause : Cause
  start : Position
  stop : Position
deriving DecidableEq

inductive Limit
  | lineNumber
  | width
deriving DecidableEq

namespace Error

/-- What the error comes from. -/
def source? (e : Error) : Option Cause := some e.cause

/-- The error in two lines, the second of which names the file and the line. -/
def summary (e : Error) : Except Limit String :=
  match e.start.lineNumber? with
  | some number =>
    .ok (e.cause.name ++ ": " ++ e.cause.details ++ "\n" ++
      "file: " ++ e.start.file ++ ", line: " ++ number.repr)
  | none => .error .lineNumber

end Error

end FormulaLexer
