import FormulaLexer.Decimal.Notation

namespace FormulaLexer

inductive TokenKind
  | integer
  | float
  | plus
  | minus
  | multiply
  | divide
  | leftParen
  | rightParen
deriving DecidableEq

def TokenKind.tag : TokenKind → String
  | .integer => "INT"
  | .float => "FLOAT"
  | .plus => "PLUS"
  | .minus => "MINUS"
  | .multiply => "MUL"
  | .divide => "DIV"
  | .leftParen => "LPAREN"
  | .rightParen => "RPAREN"

/-- The characters that are tokens by themselves, in the order of their code points. -/
def operators : List (Char × TokenKind) :=
  [('(', .leftParen), (')', .rightParen), ('*', .multiply), ('+', .plus), ('-', .minus),
   ('/', .divide)]

def operator? (c : Char) : Option TokenKind := operators.lookup c

/-- The value of a number: an integer of any size or a binary64 number. -/
inductive Literal
  | integer (value : Int)
  | float (value : Binary64)
deriving DecidableEq

namespace Literal

def kind : Literal → TokenKind
  | .integer _ => .integer
  | .float _ => .float

def text : Literal → String
  | .integer value => value.repr
  | .float value => value.text

/-- The value written by digits with at most one point among or after them. Without a point it is
an exact integer, with one the nearest binary64 number. -/
def read? (cs : List Char) : Option Literal :=
  let whole := cs.takeWhile Char.isDigit
  if whole = [] then none
  else
    match cs.dropWhile Char.isDigit with
    | [] => some (.integer (Nat.ofDigitChars 10 whole 0))
    | '.' :: fraction =>
      if fraction.all Char.isDigit then
        some (.float
          (Decimal.mk (Nat.ofDigitChars 10 (whole ++ fraction) 0) (-fraction.length)).toBinary64)
      else none
    | _ => none

/-- Equality of values: an integer differs from every float, and floats compare as numbers. -/
def numericEq : Literal → Literal → Bool
  | .integer a, .integer b => a = b
  | .float a, .float b => a.numericEq b
  | _, _ => false

end Literal

/-- A token. In a formula exactly the numbers carry a value, of their own kind; a token made by hand
may join any kind with any value. -/
structure Token where
  kind : TokenKind
  value : Option Literal
deriving DecidableEq

namespace Token

def ofOperator (kind : TokenKind) : Token := ⟨kind, none⟩

def ofLiteral (value : Literal) : Token := ⟨value.kind, some value⟩

def integer? (t : Token) : Option Int :=
  match t.value with
  | some (.integer value) => some value
  | _ => none

def float? (t : Token) : Option Binary64 :=
  match t.value with
  | some (.float value) => some value
  | _ => none

/-- The tag of the kind, and after a colon the value if there is one. -/
def text (t : Token) : String :=
  match t.value with
  | some value => t.kind.tag ++ ":" ++ value.text
  | none => t.kind.tag

/-- Equality of tokens, with values compared as numbers. -/
def numericEq (a b : Token) : Bool :=
  a.kind = b.kind &&
    match a.value, b.value with
    | some v, some w => v.numericEq w
    | none, none => true
    | _, _ => false

end Token

end FormulaLexer
