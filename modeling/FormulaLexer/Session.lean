import FormulaLexer.Run

namespace FormulaLexer

/-- Where the lexer stands, and the copies kept of it. -/
structure Session where
  cursor : Cursor
  saved : List Cursor

namespace Session

def start (source : String) (file? : Option String) : Session := ⟨Cursor.start source file?, []⟩

def run (s : Session) : Session := { s with cursor := s.cursor.run.cursor }

def save (s : Session) : Session := { s with saved := s.saved ++ [s.cursor] }

/-- The sessions with lexers of a source. -/
inductive Reachable (source : String) (file? : Option String) : Session → Prop
  | start : Reachable source file? (start source file?)
  | run {s : Session} (h : Reachable source file? s) : Reachable source file? s.run
  | save {s : Session} (h : Reachable source file? s) : Reachable source file? s.save
  | load {s : Session} {c : Cursor} (h : Reachable source file? s) (hc : c ∈ s.saved) :
      Reachable source file? { s with cursor := c }

/-- A lexer of the source is at the cursor at some time: at the beginning or the end of a run, or
between two advances of one. -/
def Passes (source : String) (file? : Option String) (c : Cursor) : Prop :=
  ∃ s m n, Reachable source file? s ∧ s.run.cursor = s.cursor.skip n ∧ m ≤ n ∧
    c = s.cursor.skip m

end Session

end FormulaLexer
