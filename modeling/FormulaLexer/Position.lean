namespace FormulaLexer

/-- A place in a source text, with the name of the source and all of its text. Offset and column are
-1 before the first character. -/
structure Position where
  offset : Int
  line : Nat
  column : Int
  file : String
  text : String
deriving DecidableEq

namespace Position

def start (file text : String) : Position := ⟨-1, 0, -1, file, text⟩

def advance (p : Position) (c : Option Char) : Position :=
  if c = some '\n' then { p with offset := p.offset + 1, line := p.line + 1, column := 0 }
  else { p with offset := p.offset + 1, column := p.column + 1 }

/-- The offset as an index into the characters of the text, once the position is on the text. -/
def index? (p : Position) : Option Nat := if 0 ≤ p.offset then some p.offset.toNat else none

def lineNumber (p : Position) : Nat := p.line + 1

/-- The greatest offset and the greatest column, those of a signed 64-bit word. -/
def maxOffset : Int := (Nat.pow 2 63 : Nat) - 1

/-- The greatest line and the greatest line number, those of an unsigned 64-bit word. -/
def maxLine : Nat := Nat.pow 2 64 - 1

structure Overflow where
  /-- The position as it was left. -/
  left : Position

/-- The position after `c`, with bounded counters. The offset is raised first, then the column,
then the line, and what was raised before a full counter is met stays raised. -/
def advance? (p : Position) (c : Option Char) : Except Overflow Position :=
  if maxOffset ≤ p.offset then .error ⟨p⟩
  else if maxOffset ≤ p.column then .error ⟨{ p with offset := p.offset + 1 }⟩
  else if c = some '\n' ∧ maxLine ≤ p.line then
    .error ⟨{ p with offset := p.offset + 1, column := p.column + 1 }⟩
  else .ok (p.advance c)

def advanceAll? (p : Position) (cs : List (Option Char)) : Except Overflow Position :=
  cs.foldlM advance? p

/-- The line counted from 1, if that number is within bounds. -/
def lineNumber? (p : Position) : Option Nat :=
  if maxLine ≤ p.line then none else some p.lineNumber

@[simp] theorem offset_advance (p : Position) (c : Option Char) :
    (p.advance c).offset = p.offset + 1 := by
  rw [advance]
  split <;> rfl

@[simp] theorem line_advance (p : Position) (c : Option Char) :
    (p.advance c).line = if c = some '\n' then p.line + 1 else p.line := by
  rw [advance]
  split <;> rfl

@[simp] theorem column_advance (p : Position) (c : Option Char) :
    (p.advance c).column = if c = some '\n' then 0 else p.column + 1 := by
  rw [advance]
  split <;> rfl

@[simp] theorem file_advance (p : Position) (c : Option Char) : (p.advance c).file = p.file := by
  rw [advance]
  split <;> rfl

@[simp] theorem text_advance (p : Position) (c : Option Char) : (p.advance c).text = p.text := by
  rw [advance]
  split <;> rfl

theorem advance?_eq_ok {p : Position} {c : Option Char} (ho : p.offset < maxOffset)
    (hc : p.column < maxOffset) (hl : p.line < maxLine) : p.advance? c = .ok (p.advance c) := by
  simp only [advance?, if_neg (Int.not_le.mpr ho), if_neg (Int.not_le.mpr hc)]
  exact if_neg fun h => Nat.not_le_of_lt hl h.2

end Position

end FormulaLexer
