namespace FormulaLexer.Text

/-- The lines of a text, none of them empty. Only the line feed ends a line, and it belongs to the
line that it ends. -/
def lines : List Char → List (List Char)
  | [] => []
  | c :: cs =>
    if c = '\n' then [c] :: lines cs
    else
      match lines cs with
      | [] => [[c]]
      | line :: more => (c :: line) :: more

/-- A character's place among the lines: the line's number from 1, the line, and the character's
index in it. -/
structure Located where
  number : Nat
  line : List Char
  column : Nat
deriving DecidableEq

/-- The place of the character at `offset` in the lines laid end to end, the first of which has the
given number. -/
def locateIn (number : Nat) : List (List Char) → Nat → Option Located
  | [], _ => none
  | line :: more, offset =>
    if offset < line.length then some ⟨number, line, offset⟩
    else locateIn (number + 1) more (offset - line.length)

def locate (text : String) (offset : Nat) : Option Located := locateIn 1 (lines text.toList) offset

theorem flatten_lines (cs : List Char) : (lines cs).flatten = cs := by
  induction cs with
  | nil => rfl
  | cons c cs ih =>
    by_cases hc : c = '\n'
    · simp [lines, hc, ih]
    · simp only [lines, if_neg hc]
      cases h : lines cs with
      | nil => simpa [h] using ih
      | cons line more => simpa [h] using ih

end FormulaLexer.Text
