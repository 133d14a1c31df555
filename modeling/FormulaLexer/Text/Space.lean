import FormulaLexer.Text.Ranges

namespace FormulaLexer.Text

/-- A blank is a space or a tab. -/
def isBlank (c : Char) : Bool := c = ' ' || c = '\t'

/-- The code points with the property `White_Space`. -/
def spaces : Ranges :=
  [(0x09, 0x0d), (0x20, 0x20), (0x85, 0x85), (0xa0, 0xa0), (0x1680, 0x1680), (0x2000, 0x200a),
   (0x2028, 0x2029), (0x202f, 0x202f), (0x205f, 0x205f), (0x3000, 0x3000)]

def isSpace (c : Char) : Bool := spaces.contains c

def trimEnd (cs : List Char) : List Char := (cs.reverse.dropWhile isSpace).reverse

end FormulaLexer.Text
