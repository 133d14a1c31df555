import FormulaLexer.Proofs.Offence

namespace FormulaLexer

open Lexeme

def InNumber (c : Char) : Prop := c.isDigit = true ∨ c = '.'

/-- The last character of `u` and the first one of `v` are not both of the kind that numbers are
made of. -/
def Separable (u v : List Char) : Prop :=
  ¬ ∃ a b, u.getLast? = some a ∧ v.head? = some b ∧ InNumber a ∧ InNumber b

variable {u v text : List Char}

theorem Separable.of_append (h : Separable (text ++ u) v) : Separable u v := by
  intro hn
  obtain ⟨a, b, ha, hb, hin⟩ := hn
  have hl : (text ++ u).getLast? = some a := by
    rw [List.getLast?_append, ha]
    rfl
  exact h ⟨a, b, hl, hb, hin⟩

theorem Separable.ends (h : Separable text v) (hn : IsNumber text) : Ends text v := by
  obtain ⟨init, d, rfl⟩ := (List.eq_nil_or_concat' text).resolve_left hn.ne_nil
  have hd : InNumber d := by
    rcases hn.digit_or_point with hd | ⟨hp, -⟩
    · exact .inl hd
    · exact .inr hp
  have hl : (init ++ [d]).getLast? = some d := by simp
  intro c hc
  have hn : ¬ InNumber c := fun hin => h ⟨d, c, hl, hc, hd, hin⟩
  exact ⟨Bool.eq_false_iff.mpr fun hc => hn (.inl hc), fun hc => absurd (.inr hc) hn⟩

theorem Ends.append (h : Ends text u) (hn : IsNumber text) (hs : Separable (text ++ u) v) :
    Ends text (u ++ v) := by
  cases u with
  | nil =>
    rw [List.append_nil] at hs
    exact hs.ends hn
  | cons c cs => exact ends_cons_iff.mpr (ends_cons_iff.mp h)

namespace Lexeme

variable {l : Lexeme} {ls ms : List Lexeme}

theorem Apart.append (h : l.Apart u) (hv : l.Valid) (hs : Separable (l.chars ++ u) v) :
    l.Apart (u ++ v) := by
  cases l with
  | number text => exact Ends.append h hv hs
  | blank c => trivial
  | operator c kind => trivial
  | stray c => trivial

theorem Division.append (hl : Division ls) (hm : Division ms)
    (hs : Separable (ls.flatMap chars) (ms.flatMap chars)) : Division (ls ++ ms) := by
  induction hl with
  | nil => exact hm
  | cons hv ha h ih =>
    rw [List.flatMap_cons] at hs
    apply Division.cons hv _ (ih hs.of_append)
    rw [List.flatMap_append]
    exact ha.append hv hs

theorem split_append_of_separable (h : Separable u v) : split (u ++ v) = split u ++ split v := by
  apply split_eq_iff.mpr
  have hu := flatMap_chars_split u
  have hv := flatMap_chars_split v
  apply And.intro
  · apply (division_split u).append (division_split v)
    rwa [hu, hv]
  · rw [List.flatMap_append, hu, hv]

theorem Clean.append (hl : Clean ls) (hm : Clean ms) : Clean (ls ++ ms) := by
  intro ch h
  rcases List.mem_append.mp h with h | h
  · exact hl ch h
  · exact hm ch h

end Lexeme

/-- When `u` has tokens and no number goes over from `u` to `v`, the source `u ++ v` has the tokens
of both, or goes wrong where `v` does. -/
theorem tokenize_append {u v : String} {tokens : List Token} {other? : Option String}
    (hu : tokenize u other? = .ok tokens) (hs : Separable u.toList v.toList)
    (file? : Option String) :
    (∀ more, tokenize v other? = .ok more → tokenize (u ++ v) file? = .ok (tokens ++ more)) ∧
    ∀ e, tokenize v other? = .error e →
      ∃ (x : Char) (k : Nat), e.cause = .illegalCharacter (String.singleton x) ∧
        e.start.offset = k ∧
        tokenize (u ++ v) file? = .error
          ⟨.illegalCharacter (String.singleton x),
            ⟨u.length + k, 0, u.length + k, file?.getD defaultFile, u ++ v⟩,
            ⟨u.length + k + 1, if x = '\n' then 1 else 0,
              if x = '\n' then 0 else u.length + k + 1, file?.getD defaultFile, u ++ v⟩⟩ := by
  have hcu := clean_of_tokenize hu
  have hsplit : split (u ++ v).toList = split u.toList ++ split v.toList := by
    rw [String.toList_append, split_append_of_separable hs]
  rw [tokenize_of_clean other? hcu] at hu
  obtain rfl := Except.ok.inj hu
  rcases clean_or_stray (split v.toList) with hcv | ⟨before, x, after, hv, hcb⟩
  · have ht := tokenize_of_clean other? hcv
    have hw : Clean (split (u ++ v).toList) := hsplit ▸ hcu.append hcv
    apply And.intro
    · intro more hm
      obtain rfl := Except.ok.inj (ht.symm.trans hm)
      rw [tokenize_of_clean file? hw, hsplit, List.filterMap_append]
    · intro e he
      rw [ht] at he
      cases he
  · have ht := tokenize_eq_error_of_stray other? hv hcb rfl
    apply And.intro
    · intro more hm
      rw [ht] at hm
      cases hm
    · intro e he
      obtain rfl := Except.error.inj (ht.symm.trans he)
      have hw : split (u ++ v).toList = (split u.toList ++ before) ++ .stray x :: after := by
        rw [hsplit, hv, List.append_assoc]
      have hlen : ((split u.toList ++ before).flatMap chars).length =
          u.length + (before.flatMap chars).length := by
        rw [List.flatMap_append, flatMap_chars_split, List.length_append, String.length_toList]
      have he := tokenize_eq_error_of_stray file? hw (hcu.append hcb) hlen
      rw [Nat.cast_add] at he
      exact ⟨x, _, rfl, rfl, he⟩

theorem tokenize_append_dangling_point :
    tokenize "1." none = .ok [.ofLiteral (.float ⟨0x3ff0000000000000⟩)] ∧
      Separable "1.".toList "+\n".toList ∧
      tokenize "+\n" none = .error ⟨.illegalCharacter "\n", ⟨1, 0, 1, "<stdin>", "+\n"⟩,
        ⟨2, 1, 0, "<stdin>", "+\n"⟩⟩ ∧
      tokenize ("1." ++ "+\n") none = .error ⟨.illegalCharacter "\n",
        ⟨3, 0, 3, "<stdin>", "1.+\n"⟩, ⟨4, 1, 0, "<stdin>", "1.+\n"⟩⟩ := by
  have hu : tokenize "1." none = .ok [.ofLiteral (.float ⟨0x3ff0000000000000⟩)] := by
    decide +kernel
  have hs : Separable "1.".toList "+\n".toList := by simp [Separable, InNumber]
  have hv : tokenize "+\n" none = .error ⟨.illegalCharacter "\n", ⟨1, 0, 1, "<stdin>", "+\n"⟩,
      ⟨2, 1, 0, "<stdin>", "+\n"⟩⟩ := by
    decide +kernel
  obtain ⟨x, k, hx, hk, he⟩ := (tokenize_append hu hs none).2 _ hv
  have hk : k = 1 := Int.ofNat.inj hk.symm
  have hx : x = '\n' := by
    have hl := congrArg String.toList (Cause.illegalCharacter.inj hx)
    simpa using hl.symm
  subst hk hx
  exact ⟨hu, hs, hv, he⟩

end FormulaLexer
