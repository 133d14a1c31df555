import FormulaLexer.Text.Line

namespace FormulaLexer.Text

variable {cs : List Char} {k : Nat}

/-- The index after the last line feed among the first `k` characters, or 0 when there is none. -/
def lineStart (cs : List Char) : Nat → Nat
  | 0 => 0
  | k + 1 => if cs[k]? = some '\n' then k + 1 else lineStart cs k

/-- The text up to its first line feed and with it, or all of the text when there is none. -/
def firstLine : List Char → List Char
  | [] => []
  | c :: cs => if c = '\n' then [c] else c :: firstLine cs

theorem lineStart_le (cs : List Char) (k : Nat) : lineStart cs k ≤ k := by
  induction k with
  | zero => exact Nat.le_refl 0
  | succ k ih =>
    rw [lineStart]
    split
    · exact Nat.le_refl _
    · exact Nat.le_succ_of_le ih

theorem lineStart_eq_zero (h : '\n' ∉ cs.take k) : lineStart cs k = 0 := by
  induction k with
  | zero => rfl
  | succ k ih =>
    rw [List.take_add_one, List.mem_append, not_or] at h
    have hk : cs[k]? ≠ some '\n' := by
      intro he
      exact h.2 (by simp [he])
    rw [lineStart, if_neg hk, ih h.1]

theorem lineStart_append (body more : List Char) (k : Nat) :
    lineStart (body ++ '\n' :: more) (body.length + 1 + k) =
      body.length + 1 + lineStart more k := by
  induction k with
  | zero =>
    have hb : (body ++ '\n' :: more)[body.length]? = some '\n' := by simp
    simp only [lineStart, Nat.add_zero, if_pos hb]
  | succ k ih =>
    have hk : (body ++ '\n' :: more)[body.length + 1 + k]? = more[k]? := by
      rw [List.getElem?_append_right (by omega)]
      have hi : body.length + 1 + k - body.length = k + 1 := by omega
      rw [hi, List.getElem?_cons_succ]
    have hl : body.length + 1 + (k + 1) = body.length + 1 + k + 1 := rfl
    rw [hl, lineStart, hk, ih, lineStart]
    split <;> rfl

theorem lines_eq_cons (h : cs ≠ []) :
    lines cs = firstLine cs :: lines (cs.drop (firstLine cs).length) := by
  induction cs with
  | nil => exact absurd rfl h
  | cons c cs ih =>
    by_cases hc : c = '\n'
    · simp [lines, firstLine, hc]
    · cases cs with
      | nil => simp [lines, firstLine, hc]
      | cons d ds =>
        rw [lines, if_neg hc, ih (List.cons_ne_nil d ds)]
        simp [firstLine, hc]

theorem firstLine_cases (cs : List Char) :
    '\n' ∉ cs ∧ firstLine cs = cs ∨
      ∃ body more, cs = body ++ '\n' :: more ∧ '\n' ∉ body ∧ firstLine cs = body ++ ['\n'] := by
  induction cs with
  | nil => exact .inl ⟨nofun, rfl⟩
  | cons c cs ih =>
    by_cases hc : c = '\n'
    · subst c
      exact .inr ⟨[], cs, rfl, nofun, rfl⟩
    · have hl : firstLine (c :: cs) = c :: firstLine cs := if_neg hc
      have hc' : '\n' ≠ c := Ne.symm hc
      rcases ih with ⟨hn, he⟩ | ⟨body, more, rfl, hn, he⟩
      · apply Or.inl
        rw [hl, he]
        exact ⟨List.not_mem_cons_of_ne_of_not_mem hc' hn, rfl⟩
      · apply Or.inr
        rw [hl, he]
        exact ⟨c :: body, more, rfl, List.not_mem_cons_of_ne_of_not_mem hc' hn, rfl⟩

theorem newline_not_mem_of_lt (h : k < (firstLine cs).length) : '\n' ∉ cs.take k := by
  intro hm
  rcases firstLine_cases cs with ⟨hn, -⟩ | ⟨body, more, rfl, hn, he⟩
  · exact hn (List.mem_of_mem_take hm)
  · rw [he, List.length_append, List.length_singleton] at h
    rw [List.take_append_of_le_length (Nat.le_of_lt_succ h)] at hm
    exact hn (List.mem_of_mem_take hm)

theorem count_newline_append {body : List Char} (h : '\n' ∉ body) (more : List Char) (k : Nat) :
    ((body ++ '\n' :: more).take (body.length + 1 + k)).count '\n' =
      1 + (more.take k).count '\n' := by
  have ht : (body ++ '\n' :: more).take (body.length + 1 + k) =
      body ++ '\n' :: more.take k := by
    rw [Nat.add_assoc, List.take_length_add_append, Nat.add_comm 1 k, List.take_succ_cons]
  rw [ht, List.count_append, List.count_eq_zero.mpr h, List.count_cons_self]
  omega

theorem locateIn_lines (h : k < cs.length) (number : Nat) :
    locateIn number (lines cs) k =
      some ⟨number + (cs.take k).count '\n', firstLine (cs.drop (lineStart cs k)),
        k - lineStart cs k⟩ := by
  -- What is behind the first line is shorter, and its lines are the other lines.
  induction hn : cs.length using Nat.strongRecOn generalizing cs number k with
  | ind n ih =>
    have hne : cs ≠ [] := List.ne_nil_of_length_pos (Nat.zero_lt_of_lt h)
    rw [lines_eq_cons hne, locateIn]
    by_cases hk : k < (firstLine cs).length
    · have hm := newline_not_mem_of_lt hk
      rw [if_pos hk, lineStart_eq_zero hm, List.count_eq_zero.mpr hm]
      rfl
    · rw [if_neg hk]
      rcases firstLine_cases cs with ⟨-, he⟩ | ⟨body, more, rfl, hb, he⟩
      · rw [he] at hk
        exact absurd h hk
      · have hl : (firstLine (body ++ '\n' :: more)).length = body.length + 1 := by
          rw [he, List.length_append, List.length_singleton]
        obtain ⟨j, rfl⟩ : ∃ j, k = body.length + 1 + j := ⟨k - (body.length + 1), by omega⟩
        have hj : j < more.length := by
          rw [List.length_append, List.length_cons] at h
          omega
        have hlt : more.length < n := by
          rw [← hn, List.length_append, List.length_cons]
          omega
        have hd : (body ++ '\n' :: more).drop (body.length + 1) = more := by simp
        have hi := ih more.length hlt hj (number + 1) rfl
        rw [hl, hd, Nat.add_sub_cancel_left, hi, count_newline_append hb, lineStart_append]
        rw [← List.drop_drop, hd, Nat.add_sub_add_left, Nat.add_assoc]

theorem locate_eq {text : String} (h : k < text.length) :
    locate text k =
      some ⟨1 + (text.toList.take k).count '\n',
        firstLine (text.toList.drop (lineStart text.toList k)), k - lineStart text.toList k⟩ := by
  rw [← String.length_toList] at h
  exact locateIn_lines h 1

theorem getElem?_of_locateIn {number : Nat} {ls : List (List Char)} {place : Located}
    (h : locateIn number ls k = some place) : place.line[place.column]? = ls.flatten[k]? := by
  induction ls generalizing number k with
  | nil => cases h
  | cons line more ih =>
    rw [locateIn] at h
    rw [List.flatten_cons]
    by_cases hk : k < line.length
    · rw [if_pos hk] at h
      cases h
      exact (List.getElem?_append_left hk).symm
    · rw [if_neg hk] at h
      rw [ih h, List.getElem?_append_right (Nat.le_of_not_lt hk)]

theorem getElem?_of_locate {text : String} {place : Located}
    (h : locate text k = some place) : place.line[place.column]? = text.toList[k]? := by
  rw [getElem?_of_locateIn h, flatten_lines]

end FormulaLexer.Text
