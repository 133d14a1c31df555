namespace FormulaLexer.Text

variable {b m n : Nat} {c : Char}

theorem exists_digitChar_of_mem_toDigits (hb : 1 < b) (h : c ∈ Nat.toDigits b n) :
    ∃ i < b, c = Nat.digitChar i := by
  induction n using Nat.strongRecOn with
  | ind n ih =>
    rw [Nat.toDigits_eq_if hb] at h
    split at h
    · rename_i hlt
      exact ⟨n, hlt, List.mem_singleton.mp h⟩
    · rename_i hle
      rcases List.mem_append.mp h with h | h
      · exact ih (n / b) (Nat.div_lt_self (by omega) hb) h
      · exact ⟨n % b, Nat.mod_lt n (by omega), List.mem_singleton.mp h⟩

/-- Digits to a base up to sixteen tell the number. -/
theorem toDigits_inj (hb : 1 < b) (hle : b ≤ 16) :
    Nat.toDigits b m = Nat.toDigits b n ↔ m = n := by
  have hchar : ∀ i < 16, ∀ j < 16, Nat.digitChar i = Nat.digitChar j → i = j := by decide
  apply Iff.intro
  · intro h
    induction m using Nat.strongRecOn generalizing n with
    | ind m ih =>
      rw [Nat.toDigits_eq_if hb, Nat.toDigits_eq_if hb (n := n)] at h
      split at h
      · rename_i hm
        split at h
        · rename_i hn
          exact hchar m (by omega) n (by omega) (List.cons.inj h).1
        · have hlength := congrArg List.length h
          simp at hlength
      · rename_i hm
        split at h
        · have hlength := congrArg List.length h
          simp at hlength
        · obtain ⟨hdiv, hmod⟩ := List.append_inj' h rfl
          have hpos : 0 < b := by omega
          have hlt (k : Nat) : k % b < 16 := Nat.lt_of_lt_of_le (Nat.mod_lt k hpos) hle
          have hq := ih (m / b) (Nat.div_lt_self (by omega) hb) hdiv
          have hr := hchar _ (hlt m) _ (hlt n) (List.cons.inj hmod).1
          rw [← Nat.div_add_mod m b, hq, hr, Nat.div_add_mod]
  · intro h
    rw [h]

end FormulaLexer.Text
