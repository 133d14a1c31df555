import FormulaLexer.Lexeme
import FormulaLexer.Position

namespace FormulaLexer

def defaultFile : String := "<stdin>"

/-- A place in a source together with the characters from there on. -/
structure Cursor where
  rest : List Char
  position : Position
deriving DecidableEq

namespace Cursor

def start (source : String) (file? : Option String) : Cursor :=
  ⟨source.toList, (Position.start (file?.getD defaultFile) source).advance none⟩

def current? (c : Cursor) : Option Char := c.rest.head?

def advance (c : Cursor) : Cursor := ⟨c.rest.tail, c.position.advance c.current?⟩

def skip (c : Cursor) : Nat → Cursor
  | 0 => c
  | n + 1 => c.advance.skip n

/-- Reads the number `text`, which stands at the cursor, and leaves the cursor after it. -/
def readNumber (c : Cursor) (text : List Char) : Option Token × Cursor :=
  ((Literal.read? text).map Token.ofLiteral, c.skip text.length)

@[simp] theorem rest_advance (c : Cursor) : c.advance.rest = c.rest.tail := rfl

@[simp] theorem position_advance (c : Cursor) :
    c.advance.position = c.position.advance c.current? := rfl

theorem skip_skip (c : Cursor) (m n : Nat) : (c.skip m).skip n = c.skip (m + n) := by
  induction m generalizing c with
  | zero => rw [Nat.zero_add]; rfl
  | succ m ih => rw [Nat.succ_add]; exact ih c.advance

theorem rest_skip (c : Cursor) (n : Nat) : (c.skip n).rest = c.rest.drop n := by
  induction n generalizing c with
  | zero => rfl
  | succ n ih => simp only [skip, ih, rest_advance, List.drop_tail]

theorem offset_skip (c : Cursor) (n : Nat) :
    (c.skip n).position.offset = c.position.offset + n := by
  induction n generalizing c with
  | zero => exact (Int.add_zero _).symm
  | succ n ih =>
    simp only [skip, ih, position_advance, Position.offset_advance]
    omega

end Cursor

end FormulaLexer
