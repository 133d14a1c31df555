namespace FormulaLexer.Text

variable {p : Char → Bool} {d : Char} {u v rest rest' : List Char}

theorem takeWhile_append_of_head (hu : ∀ c ∈ u, p c = true)
    (hr : ∀ c, rest.head? = some c → p c = false) : (u ++ rest).takeWhile p = u := by
  rw [List.takeWhile_append_of_pos hu]
  cases rest with
  | nil => simp
  | cons c cs => simp [hr c rfl]

theorem dropWhile_append_of_head (hu : ∀ c ∈ u, p c = true)
    (hr : ∀ c, rest.head? = some c → p c = false) : (u ++ rest).dropWhile p = rest := by
  rw [List.dropWhile_append_of_pos hu]
  cases rest with
  | nil => rfl
  | cons c cs => simp [hr c rfl]

/-- There is one place only where the test first fails. -/
theorem append_inj_of_head (hu : ∀ c ∈ u, p c = true) (hv : ∀ c ∈ v, p c = true)
    (hr : ∀ c, rest.head? = some c → p c = false) (hr' : ∀ c, rest'.head? = some c → p c = false)
    (h : u ++ rest = v ++ rest') : u = v ∧ rest = rest' := by
  have htake := congrArg (List.takeWhile p) h
  have hdrop := congrArg (List.dropWhile p) h
  rw [takeWhile_append_of_head hu hr, takeWhile_append_of_head hv hr'] at htake
  rw [dropWhile_append_of_head hu hr, dropWhile_append_of_head hv hr'] at hdrop
  exact ⟨htake, hdrop⟩

theorem append_cons_inj_of_not_mem (hu : d ∉ u) (hv : d ∉ v)
    (h : u ++ d :: rest = v ++ d :: rest') : u = v ∧ rest = rest' := by
  have hpass {w : List Char} (hw : d ∉ w) : ∀ c ∈ w, decide (c ≠ d) = true := by
    intro c hc
    exact decide_eq_true (ne_of_mem_of_not_mem hc hw)
  have hstop (more : List Char) : ∀ c, (d :: more).head? = some c → decide (c ≠ d) = false := by
    intro c hc
    simpa using (Option.some.inj hc).symm
  obtain ⟨hparts, hrests⟩ := append_inj_of_head (hpass hu) (hpass hv) (hstop _) (hstop _) h
  exact ⟨hparts, (List.cons.inj hrests).2⟩

end FormulaLexer.Text
