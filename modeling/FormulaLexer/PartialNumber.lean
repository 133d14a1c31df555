import FormulaLexer.Run

namespace FormulaLexer

/-- A number of which a part is read: the characters taken so far, how many of them are points, and
the cursor after them. -/
structure PartialNumber where
  text : List Char
  points : Nat
  cursor : Cursor

namespace PartialNumber

def start (c : Cursor) : PartialNumber := ⟨[], 0, c⟩

def Continues (n : PartialNumber) (ch : Char) : Prop :=
  ch.isDigit = true ∨ ch = '.' ∧ n.points = 0

instance (n : PartialNumber) (ch : Char) : Decidable (n.Continues ch) :=
  inferInstanceAs (Decidable (ch.isDigit = true ∨ ch = '.' ∧ n.points = 0))

def push (n : PartialNumber) (ch : Char) : PartialNumber where
  text := n.text ++ [ch]
  points := if ch = '.' then n.points + 1 else n.points
  cursor := n.cursor.advance

def step? (n : PartialNumber) : Option PartialNumber :=
  match n.cursor.current? with
  | some ch => if n.Continues ch then some (n.push ch) else none
  | none => none

theorem step?_eq_some_iff {n n' : PartialNumber} :
    n.step? = some n' ↔ ∃ ch, n.cursor.current? = some ch ∧ n.Continues ch ∧ n.push ch = n' := by
  rw [step?]
  cases n.cursor.current? with
  | none => simp
  | some ch => simp

theorem step?_eq_none_iff {n : PartialNumber} :
    n.step? = none ↔ ∀ ch, n.cursor.current? = some ch → ¬ n.Continues ch := by
  rw [step?]
  cases n.cursor.current? with
  | none => simp
  | some ch => simp

theorem rest_of_step? {n n' : PartialNumber} (h : n.step? = some n') :
    ∃ ch, n.cursor.rest = ch :: n'.cursor.rest := by
  obtain ⟨ch, hch, -, rfl⟩ := step?_eq_some_iff.mp h
  obtain ⟨cs, hcs⟩ := List.head?_eq_some_iff.mp hch
  rw [push, Cursor.rest_advance, hcs]
  exact ⟨ch, rfl⟩

def complete (n : PartialNumber) : PartialNumber :=
  match _h : n.step? with
  | some n' => n'.complete
  | none => n
termination_by n.cursor.rest.length
decreasing_by
  obtain ⟨ch, hch⟩ := rest_of_step? _h
  rw [hch, List.length_cons]
  exact Nat.lt_succ_self _

theorem complete_of_step? {n n' : PartialNumber} (hs : n.step? = some n') :
    n.complete = n'.complete := by
  rw [complete]
  split
  · rename_i m hm
    rw [Option.some.inj (hm.symm.trans hs)]
  · rename_i hm
    cases hm.symm.trans hs

theorem rest_complete_suffix (n : PartialNumber) :
    n.complete.cursor.rest <:+ n.cursor.rest := by
  fun_induction complete n with
  | case1 n n' hs ih =>
    obtain ⟨ch, hch⟩ := rest_of_step? hs
    exact hch ▸ ih.trans (List.suffix_cons ch _)
  | case2 n hs => exact List.suffix_rfl

theorem step?_start {c : Cursor} {d : Char} (hc : c.current? = some d) (hd : d.isDigit = true) :
    (start c).step? = some ((start c).push d) :=
  step?_eq_some_iff.mpr ⟨d, hc, .inl hd, rfl⟩

theorem rest_complete_start_suffix {c : Cursor} {d : Char} (hc : c.current? = some d)
    (hd : d.isDigit = true) : (start c).complete.cursor.rest <:+ c.advance.rest := by
  rw [complete_of_step? (step?_start hc hd)]
  exact rest_complete_suffix _

end PartialNumber

namespace Cursor

/-- Reads the number at the cursor character by character, and leaves the cursor after it. -/
def takeNumber (c : Cursor) : Option Token × Cursor :=
  let n := (PartialNumber.start c).complete
  ((Literal.read? n.text).map Token.ofLiteral, n.cursor)

theorem length_rest_advance_lt {c : Cursor} {ch : Char} (hc : c.current? = some ch) :
    c.advance.rest.length < c.rest.length := by
  obtain ⟨cs, hcs⟩ := List.head?_eq_some_iff.mp hc
  rw [rest_advance, hcs]
  exact Nat.lt_succ_self _

theorem length_rest_takeNumber_lt {c : Cursor} {d : Char} (hc : c.current? = some d)
    (hd : d.isDigit = true) : c.takeNumber.2.rest.length < c.rest.length :=
  Nat.lt_of_le_of_lt (PartialNumber.rest_complete_start_suffix hc hd).length_le
    (length_rest_advance_lt hc)

/-- The scan of a lexer that looks at one character at a time. -/
def scanChars (c : Cursor) : Scan :=
  match _hc : c.current? with
  | none => ⟨[], .atEnd, c⟩
  | some ch =>
    if Text.isBlank ch then c.advance.scanChars
    else if _hd : ch.isDigit then
      match _ht : c.takeNumber with
      | (some token, after) => after.scanChars.emit after.position.offset token
      | (none, after) =>
        ⟨[], .unreadable (PartialNumber.start c).complete.text c.position, after⟩
    else
      match operator? ch with
      | some kind => c.advance.scanChars.emit c.position.offset (Token.ofOperator kind)
      | none => ⟨[], .stray ch c.position, c.advance⟩
termination_by c.rest.length
decreasing_by
  · exact length_rest_advance_lt _hc
  · have hlt := length_rest_takeNumber_lt _hc _hd
    rwa [_ht] at hlt
  · exact length_rest_advance_lt _hc

end Cursor

end FormulaLexer
