import PathQuery.Proofs.Query.Brackets
import PathQuery.Proofs.Token.Place

/-! What a course of tokens has in store for the parser, and how a filter is cut out of it. -/
namespace PathQuery
open Token

namespace Place
variable {p q : Place} {filters filters' : Nat} {k : Kind}

/-- How many brackets are open: one for each filter, and those of a selection. -/
def openBrackets (p : Place) (filters : Nat) : Nat :=
  match p with
  | brackets | bracketsCall => filters + 1
  | _ => filters

/-- What a token does to the open brackets: it ends the query, opens one, closes one or lets them
be, and only a closing one can close a filter. -/
theorem openBrackets_after? (h : p.after? filters k = some (q, filters')) :
    k = .endOfQuery ∧ filters = 0 ∨
    k = .openBracket ∧ filters' = filters ∧
      q.openBrackets filters' = p.openBrackets filters + 1 ∨
    k = .closeBracket ∧ (p = .path ∨ p = .brackets) ∧ q = .path ∧
      p.openBrackets filters = filters' + 1 ∨
    isPlain k = true ∧ filters ≤ filters' ∧
      q.openBrackets filters' = p.openBrackets filters := by
  unfold after? at h
  split at h
  case h_2 =>
    split at h
    case h_4 =>
      split at h
      · split at h
        next hk => cases h; exact .inl ⟨hk, rfl⟩
        · cases h
      · unfold inFilter? at h
        split at h <;> cases h <;> simp [openBrackets, isPlain]
    all_goals cases h; simp [openBrackets, isPlain]
  case h_1 | h_6 | h_8 =>
    split at h
    next hk => cases h; simp [hk, openBrackets, isPlain]
    · cases h
  case h_10 => cases h
  all_goals split at h <;> cases h <;> simp [openBrackets, isPlain]

end Place

namespace Course
variable {base filters filters' : Nat} {p q : Place} {t : Token} {ts : List Token}

theorem legible (h : Course base p filters (t :: ts)) : t.kind.Legible := by
  cases h with
  | step hl => exact hl

theorem next {n : Nat} (h : Course base p filters (t :: ts))
    (ha : p.after? filters t.kind = some (q, n)) : Course base q n ts := by
  cases h with
  | step _ ha' _ h =>
    cases ha.symm.trans ha'
    exact h

/-- What cannot stand at a place does not. -/
theorem can_stand (h : Course base p filters (t :: ts)) : p.after? filters t.kind ≠ none := by
  cases h with
  | step _ ha => simp [ha]

/-- Only along a path or at the end of the query can a course end. -/
theorem eq_cons (h : Course base p filters ts) (hp : p ≠ .path) (he : p ≠ .ended) :
    ∃ t rest, ts = t :: rest := by
  cases h with
  | ended => exact absurd rfl he
  | cut => exact absurd rfl hp
  | step => exact ⟨_, _, rfl⟩

/-- The tokens of an open filter can be cut off, and what is before the cut and what follows it are
courses. -/
theorem cuts {depth : Nat} (h : Course base p filters ts) (hb : base < filters)
    (hd : depth + (base + 1) = p.openBrackets filters) :
    ∃ body closing rest, Parser.Cuts depth ts body closing rest ∧
      Course (base + 1) p filters body ∧ Course base .path base rest := by
  induction h generalizing depth with
  | ended => omega
  | cut => omega
  | @step p q filters filters' t ts hl ha hle h ih =>
    rcases Place.openBrackets_after? ha with
      ⟨-, rfl⟩ | ⟨hk, rfl, ho⟩ | ⟨hk, hp, rfl, ho⟩ | ⟨hk, hf, ho⟩
    · omega
    · obtain ⟨body, closing, rest, hcut, hbody, hrest⟩ := @ih (depth + 1) hb (by omega)
      exact ⟨t :: body, closing, rest, hcut.opened hk, .step hl ha hb hbody, hrest⟩
    · cases depth with
      | zero =>
        have hpath : p = .path := by
          rcases hp with rfl | rfl
          · rfl
          · simp only [Place.openBrackets] at hd
            omega
        subst hpath
        simp only [Place.openBrackets] at hd ho
        have hf : filters = base + 1 := by omega
        have hf' : filters' = base := by omega
        subst hf hf'
        exact ⟨[], t.position, ts, .here hk, .cut (by simp), h⟩
      | succ depth =>
        have hb' : base < filters' := by omega
        obtain ⟨body, closing, rest, hcut, hbody, hrest⟩ :=
          @ih depth hb' (by simp only [Place.openBrackets]; omega)
        exact ⟨t :: body, closing, rest, hcut.closed hk, .step hl ha hb' hbody, hrest⟩
    · have hb' : base < filters' := by omega
      obtain ⟨body, closing, rest, hcut, hbody, hrest⟩ := @ih depth hb' (by omega)
      exact ⟨t :: body, closing, rest, hcut.plain hk, .step hl ha hb' hbody, hrest⟩

end Course

end PathQuery
