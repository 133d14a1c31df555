import FormulaLexer.Text.Extender
import FormulaLexer.Text.Printable

namespace FormulaLexer.Text

/-- The escape of a character by its code point, in lower-case hexadecimal digits. -/
def escapeCode (c : Char) : List Char :=
  ['\\', 'u', '{'] ++ Nat.toDigits 16 c.toNat ++ ['}']

/-- How `c` is written between two of `delimiter`. -/
def escape (delimiter c : Char) : List Char :=
  if c = '\x00' then ['\\', '0']
  else if c = '\t' then ['\\', 't']
  else if c = '\r' then ['\\', 'r']
  else if c = '\n' then ['\\', 'n']
  else if c = '\\' ∨ c = delimiter then ['\\', c]
  else if isPrintable c && !isExtender c then [c]
  else escapeCode c

/-- The text between two of `delimiter`, with every character escaped that needs it. -/
def quote (delimiter : Char) (cs : List Char) : List Char :=
  delimiter :: cs.flatMap (escape delimiter) ++ [delimiter]

def quoteString (s : String) : String := String.ofList (quote '"' s.toList)

def quoteChar (c : Char) : String := String.ofList (quote '\'' [c])

end FormulaLexer.Text
