import FormulaLexer.Proofs.Line

namespace FormulaLexer.Text

variable {cs : List Char} {k start stop start' stop' : Nat}

/-- The characters from `start` up to `stop` are the line with the character at `k`. They begin
behind the last line feed before `k`, or with the text, and end with the first line feed from `k`
on, or with the text. -/
structure LineAround (cs : List Char) (k start stop : Nat) : Prop where
  start_le : start ≤ k
  lt_stop : k < stop
  stop_le : stop ≤ cs.length
  opens : start = 0 ∨ ∃ i, start = i + 1 ∧ cs[i]? = some '\n'
  before : ∀ i, start ≤ i → i < k → cs[i]? ≠ some '\n'
  behind : ∀ i, k ≤ i → i + 1 < stop → cs[i]? ≠ some '\n'
  closes : stop = cs.length ∨ ∃ i, stop = i + 1 ∧ cs[i]? = some '\n'

/-- The index after the first line feed from the beginning of the line on, or after the text. -/
def lineStop (cs : List Char) (k : Nat) : Nat :=
  lineStart cs k + (firstLine (cs.drop (lineStart cs k))).length

theorem lineStart_opens (cs : List Char) (k : Nat) :
    lineStart cs k = 0 ∨ ∃ i, lineStart cs k = i + 1 ∧ cs[i]? = some '\n' := by
  induction k with
  | zero => exact .inl rfl
  | succ k ih =>
    rw [lineStart]
    split
    · rename_i h
      exact .inr ⟨k, rfl, h⟩
    · exact ih

theorem ne_newline_of_lineStart_le {i : Nat} (hi : lineStart cs k ≤ i) (hk : i < k) :
    cs[i]? ≠ some '\n' := by
  induction k with
  | zero => exact absurd hk (Nat.not_lt_zero i)
  | succ k ih =>
    rw [lineStart] at hi
    split at hi
    · omega
    · rename_i h
      rcases Nat.lt_succ_iff_lt_or_eq.mp hk with hlt | rfl
      · exact ih hi hlt
      · exact h

theorem firstLine_ends (cs : List Char) :
    firstLine cs = cs.take (firstLine cs).length ∧
      (∀ i, i + 1 < (firstLine cs).length → cs[i]? ≠ some '\n') ∧
      ((firstLine cs).length = cs.length ∨
        ∃ i, (firstLine cs).length = i + 1 ∧ cs[i]? = some '\n') := by
  rcases firstLine_cases cs with ⟨hn, he⟩ | ⟨body, more, rfl, hn, he⟩
  · rw [he, List.take_length]
    refine ⟨rfl, ?_, .inl rfl⟩
    intro i _ hi
    exact hn (List.mem_of_getElem? hi)
  · rw [he, List.length_append, List.length_singleton]
    refine ⟨?_, ?_, .inr ⟨body.length, rfl, ?_⟩⟩
    · rw [List.take_length_add_append]
      rfl
    · intro i hlt hi
      rw [List.getElem?_append_left (Nat.lt_of_succ_lt_succ hlt)] at hi
      exact hn (List.mem_of_getElem? hi)
    · rw [List.getElem?_append_right (Nat.le_refl _), Nat.sub_self]
      rfl

theorem lineAround_of_lt (h : k < cs.length) :
    LineAround cs k (lineStart cs k) (lineStop cs k) := by
  rw [lineStop]
  have hle := lineStart_le cs k
  obtain ⟨htake, hinner, hcloses⟩ := firstLine_ends (cs.drop (lineStart cs k))
  generalize firstLine (cs.drop (lineStart cs k)) = line at htake hinner hcloses ⊢
  have hlength : line.length ≤ cs.length - lineStart cs k := by
    have := congrArg List.length htake
    rw [List.length_take, List.length_drop] at this
    omega
  have hlt : k < lineStart cs k + line.length := by
    apply Nat.lt_of_not_le
    intro hn
    rcases hcloses with he | ⟨i, hi, hc⟩
    · rw [List.length_drop] at he
      omega
    · -- The line feed would stand between the beginning of the line and the character.
      rw [List.getElem?_drop] at hc
      exact ne_newline_of_lineStart_le (Nat.le_add_right _ i) (by omega) hc
  apply LineAround.mk hle hlt (by omega) (lineStart_opens cs k)
  · intro i hi hk
    exact ne_newline_of_lineStart_le hi hk
  · intro i hi hk
    have hd := hinner (i - lineStart cs k) (by omega)
    rwa [List.getElem?_drop, Nat.add_sub_cancel' (Nat.le_trans hle hi)] at hd
  · rcases hcloses with he | ⟨i, hi, hc⟩
    · rw [List.length_drop] at he
      exact .inl (by omega)
    · rw [List.getElem?_drop] at hc
      exact .inr ⟨lineStart cs k + i, by omega, hc⟩

theorem LineAround.start_unique (h : LineAround cs k start stop)
    (h' : LineAround cs k start' stop') : start ≤ start' := by
  apply Nat.le_of_not_lt
  intro hlt
  rcases h.opens with he | ⟨i, he, hi⟩
  · omega
  · have hk := h.start_le
    exact h'.before i (by omega) (by omega) hi

theorem LineAround.stop_unique (h : LineAround cs k start stop)
    (h' : LineAround cs k start' stop') : stop ≤ stop' := by
  apply Nat.le_of_not_lt
  intro hlt
  have hk := h'.lt_stop
  rcases h'.closes with he | ⟨i, he, hi⟩
  · have hle := h.stop_le
    omega
  · exact h.behind i (by omega) (by omega) hi

theorem LineAround.unique (h : LineAround cs k start stop)
    (h' : LineAround cs k start' stop') : start = start' ∧ stop = stop' :=
  ⟨Nat.le_antisymm (h.start_unique h') (h'.start_unique h),
    Nat.le_antisymm (h.stop_unique h') (h'.stop_unique h)⟩

/-- The place found is that of a character in one of the lines, behind all lines before it. -/
theorem locateIn_eq_some_iff {number : Nat} {ls : List (List Char)} {place : Located} :
    locateIn number ls k = some place ↔
      ∃ n, place.number = number + n ∧ ls[n]? = some place.line ∧
        place.column < place.line.length ∧ k = (ls.take n).flatten.length + place.column := by
  induction ls generalizing number k with
  | nil => simp [locateIn]
  | cons line more ih =>
    rw [locateIn]
    by_cases hk : k < line.length
    · rw [if_pos hk]
      apply Iff.intro
      · intro h
        cases h
        exact ⟨0, rfl, rfl, hk, (Nat.zero_add k).symm⟩
      · intro h
        obtain ⟨n, hn, hl, hc, rfl⟩ := h
        cases n with
        | zero =>
          obtain ⟨number', line', column⟩ := place
          cases hl
          simp_all
        | succ n =>
          rw [List.take_succ_cons, List.flatten_cons, List.length_append] at hk
          omega
    · rw [if_neg hk, ih]
      apply Iff.intro
      · intro h
        obtain ⟨n, hn, hl, hc, he⟩ := h
        refine ⟨n + 1, by omega, hl, hc, ?_⟩
        rw [List.take_succ_cons, List.flatten_cons, List.length_append]
        omega
      · intro h
        obtain ⟨n, hn, hl, hc, he⟩ := h
        cases n with
        | zero =>
          cases hl
          simp at he
          omega
        | succ n =>
          rw [List.take_succ_cons, List.flatten_cons, List.length_append] at he
          exact ⟨n, by omega, hl, hc, by omega⟩

theorem nil_not_mem_lines (cs : List Char) : [] ∉ lines cs := by
  induction cs with
  | nil => exact List.not_mem_nil
  | cons c cs ih =>
    rw [lines]
    split
    · simpa using ih
    · split
      · simp
      · rename_i line more h
        rw [h] at ih
        simp_all

variable {text : String}

theorem exists_char_of_locate {place : Located} (h : locate text k = some place) :
    ∃ c, place.line[place.column]? = some c ∧ text.toList[k]? = some c := by
  obtain ⟨n, -, -, hc, -⟩ := locateIn_eq_some_iff.mp h
  have hline := List.getElem?_eq_getElem hc
  exact ⟨_, hline, (getElem?_of_locate h).symm.trans hline⟩

theorem locate_eq_none_iff : locate text k = none ↔ text.length ≤ k := by
  apply Iff.intro
  · intro h
    apply Nat.le_of_not_lt
    intro hlt
    cases h.symm.trans (locate_eq hlt)
  · intro h
    cases hl : locate text k with
    | none => rfl
    | some place =>
      obtain ⟨c, -, hc⟩ := exists_char_of_locate hl
      have hlt := (List.getElem?_eq_some_iff.mp hc).1
      rw [String.length_toList] at hlt
      omega

theorem locate_eq_extract (h : k < text.length) :
    locate text k = some ⟨1 + (text.toList.take k).count '\n',
      text.toList.extract (lineStart text.toList k) (lineStop text.toList k),
      k - lineStart text.toList k⟩ := by
  rw [lineStop, List.extract_eq_take_drop, Nat.add_sub_cancel_left, ← (firstLine_ends _).1]
  exact locate_eq h

theorem locate_eq_some_iff {place : Located} :
    locate text k = some place ↔ ∃ start stop, LineAround text.toList k start stop ∧
      place = ⟨1 + (text.toList.take k).count '\n', text.toList.extract start stop,
        k - start⟩ := by
  apply Iff.intro
  · intro h
    have hlt : k < text.length := by
      apply Nat.lt_of_not_le
      intro hle
      cases h.symm.trans (locate_eq_none_iff.mpr hle)
    have haround := lineAround_of_lt (String.length_toList ▸ hlt : k < text.toList.length)
    exact ⟨_, _, haround, Option.some.inj (h.symm.trans (locate_eq_extract hlt))⟩
  · intro h
    obtain ⟨start, stop, h, rfl⟩ := h
    have hlt := Nat.lt_of_lt_of_le h.lt_stop h.stop_le
    obtain ⟨rfl, rfl⟩ := h.unique (lineAround_of_lt hlt)
    exact locate_eq_extract (String.length_toList ▸ hlt)

/-- The lines found, one for each number, are the lines of the text. -/
theorem getElem?_lines_iff {n : Nat} {line : List Char} :
    (lines text.toList)[n]? = some line ↔
      ∃ k column, locate text k = some ⟨n + 1, line, column⟩ := by
  apply Iff.intro
  · intro h
    have hne : line ≠ [] := by
      intro he
      exact nil_not_mem_lines _ (he ▸ List.mem_of_getElem? h)
    refine ⟨_, 0, locateIn_eq_some_iff.mpr ⟨n, Nat.add_comm n 1, h, ?_, rfl⟩⟩
    exact List.length_pos_iff.mpr hne
  · intro h
    obtain ⟨k, column, h⟩ := h
    obtain ⟨m, hm, hl, -⟩ := locateIn_eq_some_iff.mp h
    have hm : n + 1 = 1 + m := hm
    obtain rfl : n = m := by omega
    exact hl

/-- A place is found for the characters of the text and no other index. It is that of the line
around the character, with one number for each line, and the lines found by their numbers are the
text when laid end to end. -/
theorem locate_iff_lineAround (text : String) :
    (∀ k, locate text k = none ↔ text.length ≤ k) ∧
    (∀ k place, locate text k = some place ↔
      ∃ start stop, LineAround text.toList k start stop ∧
        place = ⟨1 + (text.toList.take k).count '\n', text.toList.extract start stop,
          k - start⟩) ∧
    (∀ k place, locate text k = some place →
      ∃ c, place.line[place.column]? = some c ∧ text.toList[k]? = some c) ∧
    (∀ j k a b, locate text j = some a → locate text k = some b → a.number = b.number →
      a.line = b.line) ∧
    ∃ ls : List (List Char), ls.flatten = text.toList ∧
      ∀ n line, ls[n]? = some line ↔ ∃ k column, locate text k = some ⟨n + 1, line, column⟩ := by
  refine ⟨fun k => locate_eq_none_iff, fun k place => locate_eq_some_iff,
    fun k place => exists_char_of_locate, ?_, lines text.toList, flatten_lines _,
    fun n line => getElem?_lines_iff⟩
  intro j k a b ha hb hn
  obtain ⟨m, hm, hla, -⟩ := locateIn_eq_some_iff.mp ha
  obtain ⟨n, hn', hlb, -⟩ := locateIn_eq_some_iff.mp hb
  obtain rfl : m = n := by omega
  exact Option.some.inj (hla.symm.trans hlb)

end FormulaLexer.Text
