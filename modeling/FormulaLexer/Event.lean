import FormulaLexer.Text.Quoted
import FormulaLexer.Token

namespace FormulaLexer

inductive Event
  /-- A run begins, on a source of so many characters. -/
  | started (file : String) (characters : Nat)
  /-- A token was read. The offset is that of the cursor: after a number, but at an operator. -/
  | emitted (offset : Int) (token : Token)
  /-- A run reached the end of the source and returns so many tokens. -/
  | finished (file : String) (count : Nat)
  /-- A run gave up at a character. -/
  | aborted (file : String) (lineNumber : Nat) (column : Int) (character : Char)
deriving DecidableEq

inductive Level
  | debug
  | trace
deriving DecidableEq

def Level.name : Level → String
  | .debug => "DEBUG"
  | .trace => "TRACE"

inductive Field
  | number (value : Int)
  | text (value : String)
deriving DecidableEq

namespace Event

def level : Event → Level
  | .emitted .. => .trace
  | _ => .debug

def message : Event → String
  | .started .. => "tokenizing"
  | .emitted .. => "emitted token"
  | .finished .. => "tokenized"
  | .aborted .. => "illegal character, aborting"

def fields : Event → List (String × Field)
  | .started file characters => [("file", .text file), ("chars", .number characters)]
  | .emitted offset token => [("offset", .number offset), ("token", .text token.text)]
  | .finished file count => [("file", .text file), ("count", .number count)]
  | .aborted file lineNumber column character =>
    [("file", .text file), ("line", .number lineNumber), ("column", .number column),
     ("character", .text (Text.quoteChar character))]

end Event

end FormulaLexer
