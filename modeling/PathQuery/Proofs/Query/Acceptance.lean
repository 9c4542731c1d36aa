import PathQuery.Proofs.Query.Completeness

/-! The parser accepts the tokens that the grammar derives, and no others. -/
namespace PathQuery
open Token Grammar

namespace Query
section
variable [Pattern.Engine] {env : Environment} {ts : List Token} {last : Token} {q : Query}

theorem endOfQuery_notMem_text {ks : List Kind} (h : Text env ks q) : .endOfQuery ∉ ks := by
  obtain ⟨hp⟩ := h
  simpa using (Balanced.path hp).endOfQuery_notMem

/-- A text whose tokens are derived is accepted, with the tree that is derived. -/
theorem parse_of_text {text : String} {ks : List Kind}
    (hl : (Lexer.tokenize text).map Token.kind = ks ++ [.endOfQuery]) (h : Text env ks q) :
    Query.parse env text = .ok q := by
  obtain ⟨used, last, hts, rfl, hlast⟩ := List.map_eq_append_iff.1 hl
  obtain ⟨t, rfl, ht⟩ := List.map_eq_singleton_iff.1 hlast
  have hlex : lex text = .ok (used ++ [t]) := by
    obtain ⟨kind, lexeme, start, stop, position⟩ := t
    cases ht
    simp [lex, hts]
  have hq : ofTokens env (used ++ [t]) = .ok q := ofTokens_complete h ht
  rw [parse, hlex]
  exact hq

/-- Tokens of these kinds, whose texts and places do not matter. -/
def bareTokens (ks : List Kind) : List Token := ks.map fun k => ⟨k, "", 0, 0, {}⟩

end

end Query
end PathQuery
