import FormulaLexer.Session

namespace FormulaLexer

/-- Why a lexer whose counters are machine words goes no further: an advance finds a counter full, or
the line of a stray has no number. -/
inductive Halt
  | counter (left : Position)
  | lineNumber (position : Position)

namespace Cursor

def start? (source : String) (file? : Option String) : Except Halt Cursor :=
  match (Position.start (file?.getD defaultFile) source).advance? none with
  | .ok p => .ok ⟨source.toList, p⟩
  | .error o => .error (.counter o.left)

def advance? (c : Cursor) : Except Halt Cursor :=
  match c.position.advance? c.current? with
  | .ok p => .ok ⟨c.rest.tail, p⟩
  | .error o => .error (.counter o.left)

def skip? (c : Cursor) : Nat → Except Halt Cursor
  | 0 => .ok c
  | n + 1 => do
    let after ← c.advance?
    after.skip? n

def scanLexemes? (c : Cursor) : List Lexeme → Except Halt Scan
  | [] => .ok ⟨[], .atEnd, c⟩
  | .blank _ :: more => do
    let after ← c.advance?
    after.scanLexemes? more
  | .number text :: more => do
    let after ← c.skip? text.length
    match (Literal.read? text).map Token.ofLiteral with
    | some token =>
      let s ← after.scanLexemes? more
      return s.emit after.position.offset token
    | none => return ⟨[], .unreadable text c.position, after⟩
  | .operator _ kind :: more => do
    let after ← c.advance?
    let s ← after.scanLexemes? more
    return s.emit c.position.offset (Token.ofOperator kind)
  | .stray ch :: _ => do
    let after ← c.advance?
    match c.position.lineNumber? with
    | some _ => return ⟨[], .stray ch c.position, after⟩
    | none => throw (.lineNumber c.position)

def run? (c : Cursor) : Except Halt Run := do
  let s ← c.scanLexemes? (Lexeme.split c.rest)
  return s.toRun c

end Cursor

namespace Session

inductive Step
  | run
  | save
  /-- The lexer becomes the copy with this number. Without such a copy it stays as it is. -/
  | load (i : Nat)

def start? (source : String) (file? : Option String) : Except Halt Session := do
  let c ← Cursor.start? source file?
  return ⟨c, []⟩

def step? (s : Session) : Step → Except Halt Session
  | .run => do
    let r ← s.cursor.run?
    return { s with cursor := r.cursor }
  | .save => return s.save
  | .load i =>
    match s.saved[i]? with
    | some c => return { s with cursor := c }
    | none => return s

def play? (source : String) (file? : Option String) (steps : List Step) :
    Except Halt Session := do
  let s ← start? source file?
  steps.foldlM step? s

end Session

end FormulaLexer
