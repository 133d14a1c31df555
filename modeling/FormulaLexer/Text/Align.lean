namespace FormulaLexer.Text

def maxWidth : Nat := 65535

/-- The text after as many of `fill` as it takes to reach the width. There is no field wider than
`maxWidth`. -/
def alignRight? (fill : Char) (width : Nat) (cs : List Char) : Option (List Char) :=
  if width ≤ maxWidth then some (List.replicate (width - cs.length) fill ++ cs) else none

theorem alignRight?_eq_none_iff {fill : Char} {width : Nat} {cs : List Char} :
    alignRight? fill width cs = none ↔ maxWidth < width := by
  simp [alignRight?]

end FormulaLexer.Text
