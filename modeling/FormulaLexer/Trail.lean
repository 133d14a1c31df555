import FormulaLexer.Position

namespace FormulaLexer

structure Trail where
  position : Position
  copies : List Position

inductive Move
  | advance (c : Option Char)
  | copy

def Move.step? : Move → Option (Option Char)
  | .advance c => some c
  | .copy => none

namespace Trail

/-- The trail after a move, or as it is left when a counter was full. -/
def move? (t : Trail) : Move → Except Trail Trail
  | .advance c =>
    match t.position.advance? c with
    | .ok p => .ok { t with position := p }
    | .error o => .error { t with position := o.left }
  | .copy => .ok { t with copies := t.copies ++ [t.position] }

def moveAll? (t : Trail) (moves : List Move) : Except Trail Trail := moves.foldlM move? t

end Trail

end FormulaLexer
