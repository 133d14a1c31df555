import FormulaLexer.Trail
import Mathlib.Data.List.DropRight

namespace FormulaLexer

namespace Position

variable {p : Position} {c : Option Char} {cs : List (Option Char)} {k : Nat}

/-- The position after all of `cs`, told at once. -/
def afterAll (p : Position) (cs : List (Option Char)) : Position where
  offset := p.offset + cs.length
  line := p.line + cs.count (some '\n')
  column :=
    if some '\n' ∈ cs then (cs.rtakeWhile fun c => c ≠ some '\n').length
    else p.column + cs.length
  file := p.file
  text := p.text

/-- The offset and the column are signed words of 64 bits, the line is an unsigned one. -/
structure InWords (p : Position) : Prop where
  neg_le_offset : -maxOffset - 1 ≤ p.offset
  offset_le : p.offset ≤ maxOffset
  neg_le_column : -maxOffset - 1 ≤ p.column
  column_le : p.column ≤ maxOffset
  line_le : p.line ≤ maxLine

inductive Counter
  | offset
  | column
  | line
deriving DecidableEq

/-- The first counter that a step over `c` cannot raise. The column is raised also by a line feed,
which then sets it back. -/
def full? (p : Position) (c : Option Char) : Option Counter :=
  if p.offset = maxOffset then some .offset
  else if p.column = maxOffset then some .column
  else if c = some '\n' ∧ p.line = maxLine then some .line
  else none

/-- The position with the counters raised that a step raises before this one. -/
def raisedUpTo (p : Position) : Counter → Position
  | .offset => p
  | .column => { p with offset := p.offset + 1 }
  | .line => { p with offset := p.offset + 1, column := p.column + 1 }

/-- No step over `cs` finds a counter full. -/
def Clear (p : Position) (cs : List (Option Char)) : Prop :=
  ∀ k c, cs[k]? = some c → (p.afterAll (cs.take k)).full? c = none

/-- The step over the character at `k` is the first over `cs` that finds a counter full. -/
structure StopsAt (p : Position) (cs : List (Option Char)) (k : Nat) (counter : Counter) :
    Prop where
  clear : p.Clear (cs.take k)
  full : ∃ c, cs[k]? = some c ∧ (p.afterAll (cs.take k)).full? c = some counter

theorem afterAll_nil (p : Position) : p.afterAll [] = p := by
  simp [afterAll]

theorem afterAll_concat (p : Position) (cs : List (Option Char)) (c : Option Char) :
    p.afterAll (cs ++ [c]) = (p.afterAll cs).advance c := by
  by_cases hc : c = some '\n'
  · subst c
    simp [afterAll, advance, Int.add_assoc, Nat.add_assoc]
  · have hn : ¬ some '\n' = c := Ne.symm hc
    by_cases hm : some '\n' ∈ cs <;> simp [afterAll, advance, hc, hn, hm, Int.add_assoc]

theorem full?_eq_none_iff :
    p.full? c = none ↔
      p.offset ≠ maxOffset ∧ p.column ≠ maxOffset ∧ ¬ (c = some '\n' ∧ p.line = maxLine) := by
  rw [full?]
  split
  · simp [*]
  · split
    · simp [*]
    · split <;> simp [*]

theorem InWords.advance?_eq (h : p.InWords) (c : Option Char) :
    p.advance? c =
      match p.full? c with
      | none => .ok (p.advance c)
      | some counter => .error ⟨p.raisedUpTo counter⟩ := by
  have ho : maxOffset ≤ p.offset ↔ p.offset = maxOffset := by
    have := h.offset_le
    omega
  have hc : maxOffset ≤ p.column ↔ p.column = maxOffset := by
    have := h.column_le
    omega
  have hl : maxLine ≤ p.line ↔ p.line = maxLine := by
    have := h.line_le
    omega
  simp only [advance?, full?, ho, hc, hl]
  split
  · rfl
  · split
    · rfl
    · split <;> rfl

theorem InWords.advance (h : p.InWords) (hf : p.full? c = none) : (p.advance c).InWords := by
  obtain ⟨ho, hc, hl⟩ := full?_eq_none_iff.mp hf
  obtain ⟨ho₁, ho₂, hc₁, hc₂, hl₁⟩ := h
  apply InWords.mk
  · rw [offset_advance]
    omega
  · rw [offset_advance]
    omega
  · rw [column_advance]
    split <;> omega
  · rw [column_advance]
    split <;> omega
  · rw [line_advance]
    split
    · rename_i hn
      have : p.line ≠ maxLine := fun he => hl ⟨hn, he⟩
      omega
    · exact hl₁

theorem clear_nil (p : Position) : p.Clear [] := nofun

theorem clear_concat_iff :
    p.Clear (cs ++ [c]) ↔ p.Clear cs ∧ (p.afterAll cs).full? c = none := by
  apply Iff.intro
  · intro h
    apply And.intro
    · intro k d hd
      have hk : k < cs.length := (List.getElem?_eq_some_iff.mp hd).1
      have hs := h k d ((List.getElem?_append_left hk).trans hd)
      rwa [List.take_append_of_le_length (Nat.le_of_lt hk)] at hs
    · have hs := h cs.length c List.getElem?_concat_length
      rwa [List.take_left] at hs
  · intro h k d hd
    obtain ⟨h, hf⟩ := h
    rcases Nat.lt_or_ge k cs.length with hk | hk
    · rw [List.getElem?_append_left hk] at hd
      rw [List.take_append_of_le_length (Nat.le_of_lt hk)]
      exact h k d hd
    · have hlt := (List.getElem?_eq_some_iff.mp hd).1
      rw [List.length_append, List.length_singleton] at hlt
      obtain rfl : k = cs.length := by omega
      rw [List.getElem?_concat_length] at hd
      rw [List.take_left]
      exact Option.some.inj hd ▸ hf

theorem advanceAll?_append (p : Position) (cs ds : List (Option Char)) :
    p.advanceAll? (cs ++ ds) = (p.advanceAll? cs).bind fun q => q.advanceAll? ds :=
  List.foldlM_append

theorem InWords.advanceAll?_of_clear (h : p.InWords) (hc : p.Clear cs) :
    p.advanceAll? cs = .ok (p.afterAll cs) ∧ (p.afterAll cs).InWords := by
  induction cs using List.reverseRecOn with
  | nil =>
    rw [afterAll_nil]
    exact ⟨rfl, h⟩
  | append_singleton cs c ih =>
    obtain ⟨hc, hf⟩ := clear_concat_iff.mp hc
    obtain ⟨hcs, hw⟩ := ih hc
    have hstep := hw.advance?_eq c
    rw [hf] at hstep
    rw [advanceAll?_append, hcs, afterAll_concat]
    apply And.intro
    · simp only [Except.bind, advanceAll?, List.foldlM_cons, hstep]
      rfl
    · exact hw.advance hf

theorem InWords.advanceAll?_of_stopsAt {counter : Counter} (h : p.InWords)
    (hs : p.StopsAt cs k counter) :
    p.advanceAll? cs = .error ⟨(p.afterAll (cs.take k)).raisedUpTo counter⟩ := by
  obtain ⟨hclear, c, hk, hf⟩ := hs
  obtain ⟨hlt, rfl⟩ := List.getElem?_eq_some_iff.mp hk
  have hcs : cs = cs.take k ++ cs[k] :: cs.drop (k + 1) := by
    rw [← List.drop_eq_getElem_cons hlt, List.take_append_drop]
  obtain ⟨htake, hw⟩ := h.advanceAll?_of_clear hclear
  have hstep := hw.advance?_eq cs[k]
  rw [hf] at hstep
  conv_lhs => rw [hcs]
  rw [advanceAll?_append, htake]
  simp only [Except.bind, advanceAll?, List.foldlM_cons, hstep]
  rfl

theorem StopsAt.append {counter : Counter} (hs : p.StopsAt cs k counter)
    (ds : List (Option Char)) : p.StopsAt (cs ++ ds) k counter := by
  obtain ⟨hclear, c, hk, hf⟩ := hs
  have hlt := (List.getElem?_eq_some_iff.mp hk).1
  have ht : (cs ++ ds).take k = cs.take k := List.take_append_of_le_length (Nat.le_of_lt hlt)
  apply StopsAt.mk
  · rwa [ht]
  · rw [ht]
    exact ⟨c, (List.getElem?_append_left hlt).trans hk, hf⟩

theorem clear_or_stopsAt (p : Position) (cs : List (Option Char)) :
    p.Clear cs ∨ ∃ k counter, p.StopsAt cs k counter := by
  induction cs using List.reverseRecOn with
  | nil => exact .inl p.clear_nil
  | append_singleton cs c ih =>
    rcases ih with hc | ⟨k, counter, hs⟩
    · cases hf : (p.afterAll cs).full? c with
      | none => exact .inl (clear_concat_iff.mpr ⟨hc, hf⟩)
      | some counter =>
        apply Or.inr
        refine ⟨cs.length, counter, ?_, c, List.getElem?_concat_length, ?_⟩
        · rwa [List.take_left]
        · rwa [List.take_left]
    · exact .inr ⟨k, counter, hs.append [c]⟩

theorem InWords.advanceAll?_eq_ok_iff {q : Position} (h : p.InWords) :
    p.advanceAll? cs = .ok q ↔ p.Clear cs ∧ q = p.afterAll cs := by
  apply Iff.intro
  · intro hq
    rcases p.clear_or_stopsAt cs with hc | ⟨k, counter, hs⟩
    · exact ⟨hc, Except.ok.inj (hq.symm.trans (h.advanceAll?_of_clear hc).1)⟩
    · cases hq.symm.trans (h.advanceAll?_of_stopsAt hs)
  · intro hc
    obtain ⟨hc, rfl⟩ := hc
    exact (h.advanceAll?_of_clear hc).1

theorem InWords.advanceAll?_eq_error_iff {left : Position} (h : p.InWords) :
    p.advanceAll? cs = .error ⟨left⟩ ↔ ∃ k counter,
      p.StopsAt cs k counter ∧ left = (p.afterAll (cs.take k)).raisedUpTo counter := by
  apply Iff.intro
  · intro hl
    rcases p.clear_or_stopsAt cs with hc | ⟨k, counter, hs⟩
    · cases hl.symm.trans (h.advanceAll?_of_clear hc).1
    · have he := Except.error.inj (hl.symm.trans (h.advanceAll?_of_stopsAt hs))
      exact ⟨k, counter, hs, congrArg Overflow.left he⟩
  · intro hs
    obtain ⟨k, counter, hs, rfl⟩ := hs
    exact h.advanceAll?_of_stopsAt hs

end Position

namespace Trail

/-- Copies taken on the way do not disturb the position, nor does it disturb them. -/
theorem moveAll?_of_advanceAll? (t : Trail) (moves : List Move) :
    (∀ q, t.position.advanceAll? (moves.filterMap Move.step?) = .ok q →
      ∃ taken, t.moveAll? moves = .ok ⟨q, t.copies ++ taken⟩) ∧
    ∀ left, t.position.advanceAll? (moves.filterMap Move.step?) = .error ⟨left⟩ →
      ∃ taken, t.moveAll? moves = .error ⟨left, t.copies ++ taken⟩ := by
  induction moves generalizing t with
  | nil =>
    apply And.intro
    · intro q hq
      cases hq
      exact ⟨[], by rw [List.append_nil]; rfl⟩
    · nofun
  | cons m moves ih =>
    cases m with
    | copy =>
      obtain ⟨hok, herror⟩ := ih ⟨t.position, t.copies ++ [t.position]⟩
      apply And.intro
      · intro q hq
        obtain ⟨taken, ht⟩ := hok q hq
        rw [List.append_assoc] at ht
        exact ⟨_, ht⟩
      · intro left hl
        obtain ⟨taken, ht⟩ := herror left hl
        rw [List.append_assoc] at ht
        exact ⟨_, ht⟩
    | advance c =>
      simp only [moveAll?, List.filterMap_cons, Move.step?, Position.advanceAll?,
        List.foldlM_cons, move?]
      cases ha : t.position.advance? c with
      | ok p => exact ih ⟨p, t.copies⟩
      | error o =>
        apply And.intro
        · nofun
        · intro left hl
          cases hl
          exact ⟨[], by rw [List.append_nil]; rfl⟩

end Trail

namespace Position

/-- A chain of steps ends in the position told at once unless some step finds a counter full. Then
the first such step ends it, and leaves the position told at once for the steps before it, with
those counters raised that come before the full one. Copies taken at any time stay as they are. -/
theorem advanceAll?_iff {p : Position} (h : p.InWords) (cs : List (Option Char)) :
    (∀ q, p.advanceAll? cs = .ok q ↔ p.Clear cs ∧ q = p.afterAll cs) ∧
    (∀ left, p.advanceAll? cs = .error ⟨left⟩ ↔ ∃ k counter,
      p.StopsAt cs k counter ∧ left = (p.afterAll (cs.take k)).raisedUpTo counter) ∧
    ∀ (t : Trail) (moves : List Move), t.position = p → moves.filterMap Move.step? = cs →
      (∀ q, p.advanceAll? cs = .ok q →
        ∃ taken, t.moveAll? moves = .ok ⟨q, t.copies ++ taken⟩) ∧
      ∀ left, p.advanceAll? cs = .error ⟨left⟩ →
        ∃ taken, t.moveAll? moves = .error ⟨left, t.copies ++ taken⟩ := by
  refine ⟨fun q => h.advanceAll?_eq_ok_iff, fun left => h.advanceAll?_eq_error_iff, ?_⟩
  intro t moves hp hcs
  subst hp hcs
  exact t.moveAll?_of_advanceAll? moves

def nearLastLine : Position := ⟨-7, maxLine - 1, 5, "a.calc", "1"⟩

theorem advanceAll?_nearLastLine :
    nearLastLine.InWords ∧
      nearLastLine.advanceAll? [none, some '\n', some '1', some '\n', some '2'] =
        .error ⟨⟨-3, maxLine, 2, "a.calc", "1"⟩⟩ ∧
      ∃ k counter,
        nearLastLine.StopsAt [none, some '\n', some '1', some '\n', some '2'] k counter ∧
        ⟨-3, maxLine, 2, "a.calc", "1"⟩ = (nearLastLine.afterAll
          ([none, some '\n', some '1', some '\n', some '2'].take k)).raisedUpTo counter := by
  have hw : nearLastLine.InWords := by
    apply InWords.mk <;> decide +kernel
  have he : nearLastLine.advanceAll? [none, some '\n', some '1', some '\n', some '2'] =
      .error ⟨⟨-3, maxLine, 2, "a.calc", "1"⟩⟩ := by
    rfl
  exact ⟨hw, he, ((advanceAll?_iff hw _).2.1 _).mp he⟩

end Position

end FormulaLexer
