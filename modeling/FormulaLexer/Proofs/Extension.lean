import FormulaLexer.Proofs.Concatenation
import FormulaLexer.Proofs.Rendering

namespace FormulaLexer

open Lexeme

def Error.inText (e : Error) (text : String) : Error :=
  ⟨e.cause, { e.start with text := text }, { e.stop with text := text }⟩

namespace Lexeme

variable {before after : List Lexeme} {c : Char} {cs u v text : List Char}

theorem IsNumber.exists_token? (h : IsNumber text) :
    ∃ t, (number text).token? = some t ∧ t.IsNumber := by
  obtain ⟨value, hr⟩ := h.exists_read?
  have ht : (number text).token? = some (Token.ofLiteral value) := by
    rw [token?, hr]
    rfl
  exact ⟨_, ht, Token.isNumber_ofLiteral value⟩

theorem split_append_of_stray (h : split cs = before ++ .stray c :: after) (more : List Char) :
    ∃ after', split (cs ++ more) = before ++ .stray c :: after' := by
  have hd : Division (before ++ .stray c :: after) := h ▸ division_split cs
  have hv := hd.valid_of_append
  have hcs : cs ++ more = before.flatMap chars ++ c :: (after.flatMap chars ++ more) := by
    rw [append_stray h, List.append_assoc, List.cons_append]
  have hr : (c :: (after.flatMap chars ++ more)).head? =
      ((stray c :: after).flatMap chars).head? := rfl
  rw [hcs, split_append_of_head? hd hr, split_cons, first_stray _ hv]
  exact ⟨_, rfl⟩

theorem exists_number_of_getLast? (hc : Clean (split u)) (hl : u.getLast? = some c)
    (hn : InNumber c) : ∃ ls text, split u = ls ++ [.number text] := by
  rcases List.eq_nil_or_concat' (split u) with he | ⟨ls, l, he⟩
  · rw [← flatMap_chars_split u, he] at hl
    cases hl
  · have hm : l ∈ split u := he ▸ List.mem_append_right _ List.mem_cons_self
    have hv := (division_split u).valid l hm
    have hlast : l.chars.getLast? = some c := by
      rw [← flatMap_chars_split u, he, List.flatMap_append, List.flatMap_singleton,
        List.getLast?_append_of_ne_nil _ hv.chars_ne_nil] at hl
      exact hl
    cases l with
    | number text => exact ⟨ls, text, he⟩
    | blank d =>
      obtain rfl := Option.some.inj hlast
      exact absurd hn (not_or.mpr ⟨Bool.eq_false_iff.mp (isDigit_of_isBlank hv),
        ne_point_of_isBlank hv⟩)
    | operator d kind =>
      obtain rfl := Option.some.inj hlast
      obtain ⟨-, hd, hp⟩ := operator_class hv
      exact absurd hn (not_or.mpr ⟨Bool.eq_false_iff.mp hd, hp⟩)
    | stray d => exact absurd hm (hc d)

theorem split_append_of_number {ls : List Lexeme} (h : split u = ls ++ [.number text])
    (v : List Char) :
    ∃ text' rest, IsNumber text ∧ IsNumber text' ∧
      split (u ++ v) = ls ++ .number text' :: rest := by
  have hd : Division (ls ++ [.number text]) := h ▸ division_split u
  have hn : IsNumber text := hd.valid_of_append
  have hu : u ++ v = ls.flatMap chars ++ (text ++ v) := by
    rw [← flatMap_chars_split u, h, List.flatMap_append, List.flatMap_singleton,
      List.append_assoc]
    rfl
  cases text with
  | nil => exact absurd rfl hn.ne_nil
  | cons c cs =>
    have hc := hn.isDigit_head
    have hr : (c :: cs ++ v).head? = ([number (c :: cs)].flatMap chars).head? := rfl
    rw [hu, split_append_of_head? hd hr, List.cons_append, split_cons, first_number _ hc]
    exact ⟨_, _, hn, isNumber_numberText _ hc, rfl⟩

end Lexeme

/-- A source that fails goes on failing at the same place whatever is written behind it. One that
has tokens when more is written behind it has tokens itself, and they begin the longer list, but
that a number at its end may go on. -/
theorem tokenize_extend (source more : String) (file? : Option String) :
    (∀ e, tokenize source file? = .error e →
      (∃ x, e.cause = .illegalCharacter (String.singleton x)) ∧
        tokenize (source ++ more) file? = .error (e.inText (source ++ more))) ∧
    ∀ longer, tokenize (source ++ more) file? = .ok longer →
      ∃ tokens, tokenize source file? = .ok tokens ∧
        (tokens <+: longer ∨
          (∃ a b, source.toList.getLast? = some a ∧ more.toList.head? = some b ∧ InNumber a ∧
            InNumber b) ∧
          ∃ init t t' rest, tokens = init ++ [t] ∧ longer = init ++ t' :: rest ∧
            t.IsNumber ∧ t'.IsNumber) := by
  rcases clean_or_stray (split source.toList) with hc | ⟨before, x, after, hs, hc⟩
  · have ht := tokenize_of_clean file? hc
    apply And.intro
    · intro e he
      cases ht.symm.trans he
    · intro longer hm
      have hl := tokenize_of_clean file? (clean_of_tokenize hm)
      obtain rfl := Except.ok.inj (hl.symm.trans hm)
      apply Exists.intro _
      apply And.intro ht
      rw [String.toList_append]
      -- Unless a number goes over the seam, the lexemes of the source are all kept.
      by_cases hsep : Separable source.toList more.toList
      · apply Or.inl
        rw [split_append_of_separable hsep, List.filterMap_append]
        exact List.prefix_append _ _
      · apply Or.inr
        obtain ⟨a, b, ha, hb, hna, hnb⟩ := not_not.mp hsep
        apply And.intro ⟨a, b, ha, hb, hna, hnb⟩
        obtain ⟨ls, text, he⟩ := exists_number_of_getLast? hc ha hna
        obtain ⟨text', rest, hn, hn', he'⟩ := split_append_of_number he more.toList
        obtain ⟨t, ht, hti⟩ := IsNumber.exists_token? hn
        obtain ⟨t', ht', hti'⟩ := IsNumber.exists_token? hn'
        refine ⟨ls.filterMap token?, t, t', rest.filterMap token?, ?_, ?_, hti, hti'⟩
        · rw [he, List.filterMap_append, List.filterMap_cons_some ht]
          rfl
        · rw [he', List.filterMap_append, List.filterMap_cons_some ht']
  · have ht := tokenize_eq_error_of_stray file? hs hc rfl
    obtain ⟨after', hs'⟩ := split_append_of_stray hs more.toList
    rw [← String.toList_append] at hs'
    have ht' := tokenize_eq_error_of_stray file? hs' hc rfl
    apply And.intro
    · intro e he
      obtain rfl := Except.error.inj (ht.symm.trans he)
      exact ⟨⟨x, rfl⟩, ht'⟩
    · intro longer hm
      cases ht'.symm.trans hm

theorem tokenize_extend_integer_to_float :
    tokenize "1\n" none = .error ⟨.illegalCharacter "\n", ⟨1, 0, 1, "<stdin>", "1\n"⟩,
        ⟨2, 1, 0, "<stdin>", "1\n"⟩⟩ ∧
      tokenize ("1\n" ++ "#") none = .error ⟨.illegalCharacter "\n",
        ⟨1, 0, 1, "<stdin>", "1\n#"⟩, ⟨2, 1, 0, "<stdin>", "1\n#"⟩⟩ ∧
      tokenize ("-1" ++ ".5") none =
        .ok [⟨.minus, none⟩, .ofLiteral (.float ⟨0x3ff8000000000000⟩)] ∧
      ∃ tokens, tokenize "-1" none = .ok tokens ∧
        (tokens <+: [⟨.minus, none⟩, .ofLiteral (.float ⟨0x3ff8000000000000⟩)] ∨
          (∃ a b, "-1".toList.getLast? = some a ∧ ".5".toList.head? = some b ∧ InNumber a ∧
            InNumber b) ∧
          ∃ init t t' rest, tokens = init ++ [t] ∧
            [⟨.minus, none⟩, .ofLiteral (.float ⟨0x3ff8000000000000⟩)] = init ++ t' :: rest ∧
            t.IsNumber ∧ t'.IsNumber) := by
  have he : tokenize "1\n" none = .error ⟨.illegalCharacter "\n",
      ⟨1, 0, 1, "<stdin>", "1\n"⟩, ⟨2, 1, 0, "<stdin>", "1\n"⟩⟩ := by
    decide +kernel
  have hm : tokenize ("-1" ++ ".5") none =
      .ok [⟨.minus, none⟩, .ofLiteral (.float ⟨0x3ff8000000000000⟩)] := by
    decide +kernel
  obtain ⟨-, he'⟩ := (tokenize_extend "1\n" "#" none).1 _ he
  exact ⟨he, he', hm, (tokenize_extend "-1" ".5" none).2 _ hm⟩

end FormulaLexer
