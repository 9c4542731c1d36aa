import PathQuery.Proofs.Value.Equality

/-! The order of values. Numbers are in line with each other and so are strings, nothing else is
before anything, and equal values stand at the same place. -/
namespace PathQuery

namespace Value
variable {a b c : Value}

/-- Only numbers are before numbers, and strings before strings. -/
theorem lt_iff : a.lt b = true ↔
    (∃ x y, a = .number x ∧ b = .number y ∧ x < y) ∨
      ∃ s t, a = .string s ∧ b = .string t ∧ s < t := by
  cases a <;> cases b <;> simp [lt]

theorem lt_irrefl (a : Value) : a.lt a = false := by
  rw [← Bool.not_eq_true, lt_iff]
  rintro (⟨x, y, rfl, ⟨⟩, h⟩ | ⟨s, t, rfl, ⟨⟩, h⟩)
  · exact Int.lt_irrefl _ (Number.lt_def.1 h)
  · exact String.lt_irrefl s h

theorem lt_trans (h : a.lt b = true) (h' : b.lt c = true) : a.lt c = true := by
  rcases lt_iff.1 h with ⟨x, y, rfl, rfl, hxy⟩ | ⟨s, t, rfl, rfl, hst⟩
  · obtain ⟨_, z, ⟨⟩, rfl, hyz⟩ | ⟨_, _, ⟨⟩, _⟩ := lt_iff.1 h'
    have hxz : x < z := Int.lt_trans (Number.lt_def.1 hxy) (Number.lt_def.1 hyz)
    exact lt_iff.2 (.inl ⟨x, z, rfl, rfl, hxz⟩)
  · obtain ⟨_, _, ⟨⟩, _⟩ | ⟨_, u, ⟨⟩, rfl, htu⟩ := lt_iff.1 h'
    exact lt_iff.2 (.inr ⟨s, u, rfl, rfl, String.lt_trans hst htu⟩)

/-- Of two values the one before the other is not equal to it. -/
theorem not_same_of_lt (h : a.lt b = true) : a.same b = false := by
  by_contra hsame
  have hplace := (lt_congr (Bool.not_eq_false _ ▸ hsame) a).1
  rw [lt_irrefl, h] at hplace
  cases hplace

end Value

namespace Comparison
variable {a b c : Value}

theorem le_iff : le.holds a b = true ↔ a.lt b = true ∨ a.same b = true :=
  Bool.or_eq_true_iff

theorem le_refl (ha : a.Distinct) : le.holds a a = true :=
  le_iff.2 (.inr (Value.same_refl ha))

theorem le_trans (h : le.holds a b = true) (h' : le.holds b c = true) :
    le.holds a c = true := by
  rw [le_iff] at h h' ⊢
  rcases h with h | h
  · rcases h' with h' | h'
    · exact .inl (Value.lt_trans h h')
    · exact .inl ((Value.lt_congr h' a).1 ▸ h)
  · rcases h' with h' | h'
    · exact .inl ((Value.lt_congr h c).2 ▸ h')
    · exact .inr (Value.same_trans a b c h h')

theorem le_antisymm (h : le.holds a b = true) (h' : le.holds b a = true) :
    eq.holds a b = true := by
  rw [le_iff] at h h'
  rcases h with h | h
  · rcases h' with h' | h'
    · have := Value.lt_trans h h'
      rw [Value.lt_irrefl] at this
      cases this
    · have := (Value.lt_congr h' a).1
      rw [h, Value.lt_irrefl] at this
      cases this
  · exact h

/-- What is before a value is not after it and not equal to it. -/
theorem lt_iff_le_and_ne (a b : Value) :
    lt.holds a b = true ↔ le.holds a b = true ∧ ne.holds a b = true := by
  rw [le_iff]
  simp only [holds, Bool.not_eq_true']
  constructor
  · exact fun h => ⟨.inl h, Value.not_same_of_lt h⟩
  · rintro ⟨h | h, hne⟩
    · exact h
    · rw [h] at hne
      cases hne

theorem number_total (x y : Number) :
    le.holds (.number x) (.number y) = true ∨ le.holds (.number y) (.number x) = true := by
  simp only [le_iff, Value.lt, Value.same, Number.same_iff, decide_eq_true_eq, Number.lt_def]
  omega

theorem string_total (s t : String) :
    le.holds (.string s) (.string t) = true ∨ le.holds (.string t) (.string s) = true := by
  simp only [le_iff, Value.lt, Value.same, beq_iff_eq, decide_eq_true_eq]
  by_cases hst : s < t
  · exact .inl (.inl hst)
  · by_cases hts : t < s
    · exact .inr (.inl hts)
    · exact .inl (.inr (String.le_antisymm hts hst))

/-- Exchanging the sides asks nothing but that equality goes both ways. -/
theorem holds_flip_of_same_comm (h : a.same b = b.same a) (op : Comparison) :
    op.flip.holds b a = op.holds a b := by
  cases op <;> simp only [flip, holds, h]

theorem holds_flip (op : Comparison) (ha : a.Distinct) (hb : b.Distinct) :
    op.flip.holds b a = op.holds a b :=
  holds_flip_of_same_comm (Bool.eq_iff_iff.2 ⟨Value.same_symm ha, Value.same_symm hb⟩) op

end Comparison
end PathQuery
