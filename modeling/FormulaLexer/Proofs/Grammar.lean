import FormulaLexer.Proofs.Layout

namespace FormulaLexer

open Lexeme

namespace Word

variable {w : Word} {text : List Char}

theorem chars_lexeme (w : Word) : w.lexeme.chars = w.chars := by
  cases w <;> rfl

theorem Valid.lexeme (h : w.Valid) : w.lexeme.Valid := by
  cases w with
  | operator c kind => exact operator?_eq_some_iff.mpr h
  | integer digits => exact .integer h.1 h.2
  | float whole fraction => exact .float h.1 h.2.1 h.2.2

theorem Valid.token?_lexeme (h : w.Valid) : w.lexeme.token? = some w.token := by
  cases w with
  | operator c kind => rfl
  | integer digits =>
    have hr := read?_integer h.1 h.2
    simp only [Word.lexeme, token?, hr]
    rfl
  | float whole fraction =>
    have hr := read?_float h.1 h.2.1 h.2.2
    simp only [Word.lexeme, token?, hr]
    rfl

theorem ofNumber_integer {digits : List Char} (hd : ∀ c ∈ digits, c.isDigit = true) :
    ofNumber digits = .integer digits := by
  have h : (digits ++ []).dropWhile Char.isDigit = [] := Text.dropWhile_append_of_head hd nofun
  rw [List.append_nil] at h
  simp only [ofNumber, h]

theorem ofNumber_float {whole : List Char} (fraction : List Char)
    (hw : ∀ c ∈ whole, c.isDigit = true) :
    ofNumber (whole ++ '.' :: fraction) = .float whole fraction := by
  have hp := isDigit_head_point fraction
  simp only [ofNumber, Text.dropWhile_append_of_head hw hp, Text.takeWhile_append_of_head hw hp]

theorem ofNumber_valid (h : IsNumber text) :
    (ofNumber text).Valid ∧ (ofNumber text).isNumber = true ∧
      (ofNumber text).lexeme = .number text := by
  cases h with
  | integer hne hd =>
    rw [ofNumber_integer hd]
    exact ⟨⟨hne, hd⟩, rfl, rfl⟩
  | @float whole fraction hne hw hf =>
    rw [ofNumber_float fraction hw]
    exact ⟨⟨hne, hw, hf⟩, rfl, rfl⟩

theorem Valid.head_chars (h : w.Valid) :
    ∃ c cs, w.chars = c :: cs ∧ c.isDigit = w.isNumber ∧ c ≠ '.' := by
  cases hl : w.chars with
  | nil => exact absurd hl (chars_lexeme w ▸ h.lexeme.chars_ne_nil)
  | cons c cs =>
    cases w with
    | operator d kind =>
      obtain ⟨rfl, rfl⟩ := List.cons.inj hl
      obtain ⟨-, hd, hp⟩ := operator_class h.lexeme
      exact ⟨d, [], rfl, hd, hp⟩
    | integer digits =>
      have hn : IsNumber digits := h.lexeme
      have hd := (hl ▸ hn : IsNumber (c :: cs)).isDigit_head
      exact ⟨c, cs, rfl, hd, ne_point_of_isDigit hd⟩
    | float whole fraction =>
      have hn : IsNumber (whole ++ '.' :: fraction) := h.lexeme
      have hd := (hl ▸ hn : IsNumber (c :: cs)).isDigit_head
      exact ⟨c, cs, rfl, hd, ne_point_of_isDigit hd⟩

end Word

namespace Layout

variable {l : Layout} {ls : List Lexeme}

theorem chars_lexemes (l : Layout) : l.lexemes.flatMap chars = l.text := by
  induction l using Layout.induction with
  | nil => rfl
  | blank c l ih => rw [lexemes_blank, List.flatMap_cons, ih]; rfl
  | word w l ih => rw [lexemes_word, List.flatMap_cons, ih, Word.chars_lexeme, text_word]

theorem clean_lexemes (l : Layout) : Clean l.lexemes := by
  induction l using Layout.induction with
  | nil => exact nofun
  | blank c l ih => exact ih.cons nofun
  | word w l ih =>
    apply ih.cons
    intro ch
    cases w <;> nofun

theorem WellFormed.filterMap_token? (h : l.WellFormed) :
    l.lexemes.filterMap token? = l.tokens := by
  induction l using Layout.induction with
  | nil => rfl
  | blank c l ih => exact ih (wellFormed_blank_iff.mp h).2
  | word w l ih =>
    obtain ⟨hw, hl, -⟩ := wellFormed_word_iff.mp h
    rw [lexemes_word, List.filterMap_cons_some hw.token?_lexeme, ih hl]
    rfl

theorem WellFormed.ends_iff_detached (h : l.WellFormed) (number : List Char) :
    Ends number l.text ↔ l.Detached := by
  cases l using Layout.induction with
  | nil => exact ⟨fun _ _ => nofun, fun _ => ends_nil number⟩
  | blank c l =>
    obtain ⟨hc, -⟩ := wellFormed_blank_iff.mp h
    have hp := ne_point_of_isBlank hc
    have he : Ends number (c :: l.text) :=
      ends_cons_iff.mpr ⟨isDigit_of_isBlank hc, (absurd · hp)⟩
    exact ⟨fun _ => nofun, fun _ => he⟩
  | word w l =>
    obtain ⟨hw, -, -⟩ := wellFormed_word_iff.mp h
    obtain ⟨c, cs, hcs, hd, hp⟩ := hw.head_chars
    rw [text_word, hcs, List.cons_append, ends_cons_iff, detached_word_iff, hd]
    exact ⟨fun h => h.1, fun h => ⟨h, (absurd · hp)⟩⟩

theorem WellFormed.division (h : l.WellFormed) : Division l.lexemes := by
  induction l using Layout.induction with
  | nil => exact .nil
  | blank c l ih =>
    obtain ⟨hc, hl⟩ := wellFormed_blank_iff.mp h
    exact .cons hc trivial (ih hl)
  | word w l ih =>
    obtain ⟨hw, hl, hd⟩ := wellFormed_word_iff.mp h
    rw [lexemes_word]
    apply Division.cons hw.lexeme _ (ih hl)
    rw [chars_lexemes]
    cases w with
    | operator c kind => trivial
    | integer digits => exact (hl.ends_iff_detached _).mpr (hd rfl)
    | float whole fraction => exact (hl.ends_iff_detached _).mpr (hd rfl)

theorem WellFormed.ofLexemes_lexemes (h : l.WellFormed) : ofLexemes l.lexemes = l := by
  induction l using Layout.induction with
  | nil => rfl
  | blank c l ih =>
    obtain ⟨-, hl⟩ := wellFormed_blank_iff.mp h
    rw [lexemes_blank, ofLexemes, ih hl]
  | word w l ih =>
    obtain ⟨hw, hl, -⟩ := wellFormed_word_iff.mp h
    cases w with
    | operator c kind => rw [lexemes_word, Word.lexeme, ofLexemes, ih hl]
    | integer digits =>
      rw [lexemes_word, Word.lexeme, ofLexemes, ih hl, Word.ofNumber_integer hw.2]
    | float whole fraction =>
      rw [lexemes_word, Word.lexeme, ofLexemes, ih hl, Word.ofNumber_float fraction hw.2.1]

theorem writes_ofLexemes (h : Division ls) (hc : Clean ls) :
    (ofLexemes ls).Writes (ls.flatMap chars) := by
  induction h with
  | nil => exact ⟨wellFormed_nil, rfl⟩
  | @cons l ls hv ha h ih =>
    obtain ⟨hl, ht⟩ := ih hc.tail
    cases l with
    | blank c =>
      apply And.intro (wellFormed_blank_iff.mpr ⟨hv, hl⟩)
      rw [ofLexemes, text_blank, ht]
      rfl
    | number text =>
      obtain ⟨hw, hn, he⟩ := Word.ofNumber_valid hv
      have hd : (ofLexemes ls).Detached := (hl.ends_iff_detached text).mp (ht ▸ ha)
      apply And.intro (wellFormed_word_iff.mpr ⟨hw, hl, fun _ => hd⟩)
      rw [ofLexemes, text_word, ht, ← Word.chars_lexeme, he]
      rfl
    | operator c kind =>
      have ho : (Word.operator c kind).Valid := operator?_eq_some_iff.mp hv
      apply And.intro (wellFormed_word_iff.mpr ⟨ho, hl, nofun⟩)
      rw [ofLexemes, text_word, ht]
      rfl
    | stray c => exact absurd List.mem_cons_self (hc c)

theorem Writes.split_eq {cs : List Char} (h : l.Writes cs) : split cs = l.lexemes := by
  obtain ⟨hl, rfl⟩ := h
  exact split_eq_iff.mpr ⟨hl.division, chars_lexemes l⟩

theorem Writes.filterMap_token? {cs : List Char} (h : l.Writes cs) :
    (split cs).filterMap token? = l.tokens := by
  rw [h.split_eq, h.1.filterMap_token?]

/-- A text has a layout when no lexeme of it is a stray, and then has no other. -/
theorem writes_iff {cs : List Char} :
    l.Writes cs ↔ Clean (split cs) ∧ l = ofLexemes (split cs) := by
  apply Iff.intro
  · intro h
    rw [h.split_eq]
    exact ⟨clean_lexemes l, h.1.ofLexemes_lexemes.symm⟩
  · intro h
    obtain ⟨hc, rfl⟩ := h
    have hw := writes_ofLexemes (division_split cs) hc
    rwa [flatMap_chars_split] at hw

end Layout

theorem tokenize_of_clean {source : String} (file? : Option String)
    (h : Clean (split source.toList)) :
    tokenize source file? = .ok ((split source.toList).filterMap token?) :=
  (Cursor.run_of_clean (c := Cursor.start source file?) h).1

theorem clean_of_tokenize {source : String} {file? : Option String} {tokens : List Token}
    (h : tokenize source file? = .ok tokens) : Clean (split source.toList) :=
  Cursor.clean_of_run_ok (c := Cursor.start source file?) h

theorem Word.Valid.tokenize_chars {w : Word} (h : w.Valid) (file? : Option String) :
    tokenize (String.ofList w.chars) file? = .ok [w.token] := by
  have hw : (Layout.word w ⟨[], []⟩).Writes (String.ofList w.chars).toList := by
    apply And.intro
    · exact Layout.wellFormed_word_iff.mpr ⟨h, Layout.wellFormed_nil, fun _ _ => nofun⟩
    · rw [Layout.text_word, String.toList_ofList]
      exact List.append_nil _
  rw [tokenize_of_clean file? (Layout.writes_iff.mp hw).1, hw.filterMap_token?]
  rfl

/-- A source has tokens when it can be written as words with blanks between and around them; there
is only one way then, and the tokens are those of the words. -/
theorem tokenize_eq_ok_iff_layout (source : String) (file? : Option String)
    (tokens : List Token) :
    (tokenize source file? = .ok tokens ↔
        ∃ l : Layout, l.Writes source.toList ∧ l.tokens = tokens) ∧
      {l : Layout | l.Writes source.toList}.Subsingleton := by
  apply And.intro
  · apply Iff.intro
    · intro h
      have hc := clean_of_tokenize h
      have hw := Layout.writes_iff.mpr ⟨hc, rfl⟩
      rw [tokenize_of_clean file? hc, hw.filterMap_token?] at h
      exact ⟨_, hw, Except.ok.inj h⟩
    · intro h
      obtain ⟨l, hw, rfl⟩ := h
      rw [tokenize_of_clean file? (Layout.writes_iff.mp hw).1, hw.filterMap_token?]
  · intro l hl l' hl'
    exact (Layout.writes_iff.mp hl).2.trans (Layout.writes_iff.mp hl').2.symm

end FormulaLexer
