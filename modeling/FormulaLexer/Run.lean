import FormulaLexer.Cursor
import FormulaLexer.Error
import FormulaLexer.Event

namespace FormulaLexer

/-- A token, and the offset of the cursor when it was emitted. -/
structure Emission where
  offset : Int
  token : Token
deriving DecidableEq

inductive Ending
  | atEnd
  | stray (c : Char) (start : Position)
  | unreadable (text : List Char) (start : Position)
deriving DecidableEq

/-- What a scan emits, why it ended, and where. -/
structure Scan where
  emissions : List Emission
  ending : Ending
  cursor : Cursor
deriving DecidableEq

namespace Scan

def tokens (s : Scan) : List Token := s.emissions.map Emission.token

def emit (s : Scan) (offset : Int) (token : Token) : Scan :=
  { s with emissions := ⟨offset, token⟩ :: s.emissions }

/-- The error in which the scan ended. It reaches to where the cursor is left. -/
def error? (s : Scan) : Option Error :=
  match s.ending with
  | .atEnd => none
  | .stray c start => some ⟨.illegalCharacter (String.singleton c), start, s.cursor.position⟩
  | .unreadable text start => some ⟨.invalidNumber (String.ofList text), start, s.cursor.position⟩

def closing (s : Scan) : List Event :=
  match s.ending with
  | .atEnd => [.finished s.cursor.position.file s.emissions.length]
  | .stray c start => [.aborted start.file start.lineNumber start.column c]
  | .unreadable .. => []

end Scan

structure Run where
  events : List Event
  result : Except Error (List Token)
  cursor : Cursor

/-- The run that a scan from `c` amounts to. The tokens before an error are dropped. -/
def Scan.toRun (s : Scan) (c : Cursor) : Run where
  events :=
    .started c.position.file c.position.text.length ::
      s.emissions.map (fun e => .emitted e.offset e.token) ++ s.closing
  result :=
    match s.error? with
    | some e => .error e
    | none => .ok s.tokens
  cursor := s.cursor

namespace Cursor

/-- The scan of the given lexemes, the first of which stands at the cursor. A number is emitted
once the cursor is past it, an operator while the cursor is at it. -/
def scanLexemes (c : Cursor) : List Lexeme → Scan
  | [] => ⟨[], .atEnd, c⟩
  | .blank _ :: more => c.advance.scanLexemes more
  | .number text :: more =>
    match c.readNumber text with
    | (some token, after) => (after.scanLexemes more).emit after.position.offset token
    | (none, after) => ⟨[], .unreadable text c.position, after⟩
  | .operator _ kind :: more =>
    (c.advance.scanLexemes more).emit c.position.offset (Token.ofOperator kind)
  | .stray ch :: _ => ⟨[], .stray ch c.position, c.advance⟩

def scan (c : Cursor) : Scan := c.scanLexemes (Lexeme.split c.rest)

def run (c : Cursor) : Run := c.scan.toRun c

end Cursor

/-- The tokens of a source, or the first error in it. -/
def tokenize (source : String) (file? : Option String) : Except Error (List Token) :=
  (Cursor.start source file?).run.result

end FormulaLexer
