import FormulaLexer.Session

namespace FormulaLexer

/-- A session, and the errors that its runs have returned so far, in order. -/
structure Journal where
  session : Session
  errors : List Error

namespace Journal

def run (j : Journal) : Journal where
  session := j.session.run
  errors :=
    match j.session.cursor.run.result with
    | .error e => j.errors ++ [e]
    | .ok _ => j.errors

def save (j : Journal) : Journal := { j with session := j.session.save }

def load (j : Journal) (c : Cursor) : Journal :=
  { j with session := { j.session with cursor := c } }

inductive Later (j : Journal) : Journal → Prop
  | now : Later j j
  | run {k : Journal} (h : Later j k) : Later j k.run
  | save {k : Journal} (h : Later j k) : Later j k.save
  | load {k : Journal} {c : Cursor} (h : Later j k) (hc : c ∈ k.session.saved) :
      Later j (k.load c)

end Journal

end FormulaLexer
