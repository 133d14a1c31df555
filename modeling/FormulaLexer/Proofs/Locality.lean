import FormulaLexer.Proofs.Refusal

namespace FormulaLexer

/-- Causes of one kind, whatever the texts at fault. -/
inductive Cause.Alike : Cause → Cause → Prop
  | illegalCharacter (a b : String) : Alike (.illegalCharacter a) (.illegalCharacter b)
  | invalidNumber (a b : String) : Alike (.invalidNumber a) (.invalidNumber b)

namespace Cause.Alike

variable {a b : Cause}

theorem name_eq (h : a.Alike b) : a.name = b.name := by
  cases h <;> rfl

theorem tip?_eq (h : a.Alike b) : a.tip? = b.tip? := by
  cases h <;> rfl

end Cause.Alike

namespace Text

variable {cs before line after : List Char} {column k start stop : Nat}

/-- The text made of the three parts has the second for one of its lines. -/
structure IsLine (before line after : List Char) : Prop where
  opens : before = [] ∨ before.getLast? = some '\n'
  inner : '\n' ∉ line.dropLast
  closes : after = [] ∨ line.getLast? = some '\n'

theorem IsLine.ne_newline (h : IsLine before line after) {i : Nat} (hi : before.length ≤ i)
    (hlt : i + 1 < before.length + line.length) : (before ++ line ++ after)[i]? ≠ some '\n' := by
  intro he
  have hline : i - before.length < line.length - 1 := by omega
  rw [List.append_assoc, List.getElem?_append_right hi,
    List.getElem?_append_left (by omega : i - before.length < line.length)] at he
  apply h.inner
  rw [List.dropLast_eq_take]
  apply List.mem_of_getElem?
  rw [List.getElem?_take_of_lt hline, he]

theorem exists_getElem?_of_getLast? {cs : List Char} {c : Char} (h : cs.getLast? = some c)
    (more : List Char) : ∃ i, cs.length = i + 1 ∧ (cs ++ more)[i]? = some c := by
  obtain ⟨body, rfl⟩ := List.getLast?_eq_some_iff.mp h
  exact ⟨body.length, by simp, by simp⟩

theorem IsLine.lineAround (h : IsLine before line after) (hc : column < line.length) :
    LineAround (before ++ line ++ after) (before.length + column) before.length
      (before.length + line.length) := by
  apply LineAround.mk
  · omega
  · omega
  · simp only [List.length_append]
    omega
  · rcases h.opens with rfl | hlast
    · exact .inl rfl
    · rw [List.append_assoc]
      exact .inr (exists_getElem?_of_getLast? hlast _)
  · intro i hi hlt
    exact h.ne_newline hi (by omega)
  · intro i hi hlt
    exact h.ne_newline (by omega) hlt
  · rcases h.closes with rfl | hlast
    · exact .inl (by simp)
    · have hlast : (before ++ line).getLast? = some '\n' := by
        rw [List.getLast?_append, hlast]
        rfl
      rw [← List.length_append]
      exact .inr (exists_getElem?_of_getLast? hlast _)

/-- A line is found by the number of the lines before it, whatever they say. -/
theorem IsLine.locate (h : IsLine before line after) (hc : column < line.length) {text : String}
    (htext : text.toList = before ++ line ++ after) :
    locate text (before.length + column) = some ⟨1 + before.count '\n', line, column⟩ := by
  have hnone : '\n' ∉ line.take column := by
    intro hm
    apply h.inner
    rw [List.dropLast_eq_take]
    exact (List.take_subset_take_left line (by omega)) hm
  have hcount : ((before ++ line ++ after).take (before.length + column)).count '\n' =
      before.count '\n' := by
    rw [List.append_assoc, List.take_length_add_append,
      List.take_append_of_le_length (Nat.le_of_lt hc), List.count_append,
      List.count_eq_zero.mpr hnone, Nat.add_zero]
  have hextract : (before ++ line ++ after).extract before.length (before.length + line.length) =
      line := by
    rw [List.extract_eq_take_drop, Nat.add_sub_cancel_left, List.append_assoc, List.drop_left,
      List.take_left]
  apply locate_eq_some_iff.mpr
  refine ⟨before.length, before.length + line.length, ?_, ?_⟩
  · rw [htext]
    exact h.lineAround hc
  · rw [htext, hcount, hextract, Nat.add_sub_cancel_left]

theorem getLast?_take {i : Nat} {c : Char} (h : cs[i]? = some c) :
    (cs.take (i + 1)).getLast? = some c := by
  rw [List.take_add_one, h, Option.toList_some, List.getLast?_append]
  rfl

theorem LineAround.ne_newline (h : LineAround cs k start stop) {i : Nat} (hi : start ≤ i)
    (hlt : i + 1 < stop) : cs[i]? ≠ some '\n' := by
  by_cases hk : i < k
  · exact h.before i hi hk
  · exact h.behind i (Nat.le_of_not_lt hk) hlt

theorem LineAround.isLine (h : LineAround cs k start stop) :
    IsLine (cs.take start) (cs.extract start stop) (cs.drop stop) := by
  have hstart := h.start_le
  have hstop := h.lt_stop
  apply IsLine.mk
  · rcases h.opens with rfl | ⟨i, rfl, hi⟩
    · exact .inl rfl
    · exact .inr (getLast?_take hi)
  · intro hm
    obtain ⟨i, hi⟩ := List.mem_iff_getElem?.mp hm
    rw [List.getElem?_dropLast] at hi
    split at hi
    · rename_i hlt
      rw [List.extract_eq_take_drop, List.length_take] at hlt
      rw [List.extract_eq_take_drop, List.getElem?_take_of_lt (by omega), List.getElem?_drop] at hi
      exact h.ne_newline (Nat.le_add_right _ _) (by omega) hi
    · cases hi
  · rcases h.closes with rfl | ⟨i, rfl, hi⟩
    · exact .inl List.drop_length
    · apply Or.inr
      have hle : start ≤ i := by omega
      have hdrop : (cs.drop start)[i - start]? = some '\n' := by
        rw [List.getElem?_drop, Nat.add_sub_cancel' hle, hi]
      rw [List.extract_eq_take_drop, Nat.sub_add_comm hle]
      exact getLast?_take hdrop

theorem exists_isLine (h : k < cs.length) :
    ∃ before line after column, cs = before ++ line ++ after ∧ IsLine before line after ∧
      k = before.length + column ∧ column < line.length := by
  have haround := lineAround_of_lt h
  generalize lineStart cs k = start at haround
  generalize lineStop cs k = stop at haround
  have hstart := haround.start_le
  have hlt := haround.lt_stop
  have hle := haround.stop_le
  refine ⟨cs.take start, cs.extract start stop, cs.drop stop, k - start, ?_, haround.isLine, ?_, ?_⟩
  · rw [List.extract_eq_take_drop, ← List.take_add, Nat.add_sub_cancel' (by omega),
      List.take_append_drop]
  · rw [List.length_take]
    omega
  · rw [List.extract_eq_take_drop, List.length_take, List.length_drop]
    omega

end Text

namespace Error

variable {e e' : Error} {before line after before' after' : List Char} {column o : Nat}

/-- The error begins in the second of three parts of its text, which is one of the lines. -/
structure BeginsIn (e : Error) (before line after : List Char) (column : Nat) : Prop where
  text : e.start.text.toList = before ++ line ++ after
  isLine : Text.IsLine before line after
  offset : e.start.offset = (before.length + column : Nat)
  lt : column < line.length

theorem BeginsIn.place? (h : e.BeginsIn before line after column) :
    e.place? = some ⟨1 + before.count '\n', line, column⟩ :=
  (place?_of_offset h.offset).trans (h.isLine.locate h.lt h.text)

theorem BeginsAt.exists_beginsIn (h : e.BeginsAt o) :
    ∃ before line after column, o = before.length + column ∧
      e.BeginsIn before line after column := by
  have hlt : o < e.start.text.toList.length := String.length_toList ▸ h.lt
  obtain ⟨before, line, after, column, htext, hline, rfl, hc⟩ := Text.exists_isLine hlt
  exact ⟨before, line, after, column, rfl, htext, hline, h.offset, hc⟩

theorem excerpt?_congr (hc : e.cause.Alike e'.cause) (hf : e.start.file = e'.start.file)
    (place : Text.Located) : e.excerpt? place = e'.excerpt? place := by
  have hheadline : e.headline = e'.headline := by
    rw [headline, headline, hc.tip?_eq, hc.name_eq]
  rw [excerpt?, excerpt?, hheadline, hf]

/-- With a place in the text, neither the summary nor the position's own line is made use of. -/
theorem display_congr (hc : e.cause.Alike e'.cause) (hf : e.start.file = e'.start.file)
    {place : Text.Located} (hp : e.place? = some place) (hp' : e'.place? = some place) :
    e.display = e'.display := by
  rw [display, display, hp, hp']
  simp only [excerpt?_congr hc hf]

/-- Errors of one kind in one file are shown alike, or both are not shown, if they begin at the same
character of one text, whatever text is at fault, which line and column they give for it and where
they end. The same is so for two texts, if they begin at the same character of a line that both have
behind equally many others. Every error that begins in its text does so in one of the lines. -/
theorem display_eq_of_sameLine (hc : e.cause.Alike e'.cause)
    (hf : e.start.file = e'.start.file) :
    (∀ o, e.start.text = e'.start.text → e.BeginsAt o → e'.BeginsAt o → e.display = e'.display) ∧
    (∀ before line after before' after' column, e.BeginsIn before line after column →
      e'.BeginsIn before' line after' column → before.count '\n' = before'.count '\n' →
        e.display = e'.display) ∧
    ∀ o, e.BeginsAt o → ∃ before line after column, o = before.length + column ∧
      e.BeginsIn before line after column := by
  refine ⟨?_, ?_, ?_⟩
  · intro o htext h h'
    have hp' := h'.place?
    rw [← htext] at hp'
    exact display_congr hc hf h.place? hp'
  · intro before line after before' after' column h h' hcount
    have hp' := h'.place?
    rw [← hcount] at hp'
    exact display_congr hc hf h.place? hp'
  · intro o h
    exact h.exists_beginsIn

def original : Error where
  cause := .illegalCharacter "@"
  start := ⟨6, 1, 2, "a.calc", "1 +\n2 @\n3"⟩
  stop := ⟨7, 1, 3, "a.calc", "1 +\n2 @\n3"⟩

/-- An error of the same kind, made by hand for the same character. -/
def restated : Error where
  cause := .illegalCharacter "at"
  start := ⟨6, Position.maxLine, -1, "a.calc", "1 +\n2 @\n3"⟩
  stop := ⟨-1, 0, -1, "", ""⟩

/-- The same error where the lines around that of the character are others. -/
def edited : Error where
  cause := .illegalCharacter "@"
  start := ⟨3, 1, 2, "a.calc", "\n2 @\n(4\n+5)\n"⟩
  stop := ⟨4, 1, 3, "a.calc", "\n2 @\n(4\n+5)\n"⟩

theorem display_eq_of_sameLine_edited :
    original.display = restated.display ∧ original.display = edited.display ∧
      original.display = .ok ("Error: Illegal Character (only digits, `.`, `+ - * / ( )`, " ++
        "spaces and tabs are allowed)\n-> a.calc\n  |\n2 | 2 @\n  | --^") := by
  have hrestated : original.cause.Alike restated.cause := .illegalCharacter "@" "at"
  have hedited : original.cause.Alike edited.cause := .illegalCharacter "@" "@"
  have hbegins : original.BeginsAt 6 := ⟨rfl, by decide +kernel⟩
  have hbegins' : restated.BeginsAt 6 := ⟨rfl, by decide +kernel⟩
  have hline : original.BeginsIn "1 +\n".toList "2 @\n".toList ['3'] 2 :=
    ⟨by decide +kernel, ⟨.inr rfl, by decide, .inr rfl⟩, rfl, by decide⟩
  have hline' : edited.BeginsIn ['\n'] "2 @\n".toList "(4\n+5)\n".toList 2 :=
    ⟨by decide +kernel, ⟨.inr rfl, by decide, .inr rfl⟩, rfl, by decide⟩
  refine ⟨?_, ?_, by decide +kernel⟩
  · exact (display_eq_of_sameLine hrestated rfl).1 6 rfl hbegins hbegins'
  · exact (display_eq_of_sameLine hedited rfl).2.1 _ _ _ _ _ _ hline hline' rfl

end Error

end FormulaLexer
