import PathQuery.Proofs.Query.Acceptance
import PathQuery.Proofs.Query.Admission
import PathQuery.Proofs.Value.Order
import PathQuery.Query.Eval

/-! Comparisons in filters. The parser puts a literal on the left to the right and exchanges the
sides of the operator, which the order of values does not notice. -/
namespace PathQuery
open Token

/-- A literal has no members, so no names of members can stand in the way. -/
theorem Value.IsScalar.same_comm {v : Value} (hv : v.IsScalar) (w : Value) :
    v.same w = w.same v := by
  cases v with
  | null => cases w <;> rfl
  | bool b =>
    cases w with
    | bool c => exact BEq.comm
    | _ => rfl
  | number x =>
    cases w with
    | number y =>
      rw [Bool.eq_iff_iff, same, same, Number.same_iff, Number.same_iff]
      exact eq_comm
    | _ => rfl
  | string s =>
    cases w with
    | string t => exact BEq.comm
    | _ => rfl
  | array | object => exact hv.elim

/-- The predicate is a comparison of a value with what the one node of a path holds. -/
def Predicate.Compares [Pattern.Engine] (p : Predicate) (v : Value) (op : Comparison)
    (path : Subpath) : Prop :=
  ∀ env root current, p.holds env root current = .ok true ↔
    ∃ node, path.nodes env root current = .ok [node] ∧ op.holds v node.value = true

theorem any_single? {nodes : List Node} {test : Node → Bool} :
    (single? nodes).any test = true ↔ ∃ node, nodes = [node] ∧ test node = true := by
  match nodes with
  | [] => simp [single?]
  | [node] => simp [single?]
  | _ :: _ :: _ => simp [single?]

theorem Predicate.compares_flipped [Pattern.Engine] {v : Value} (hv : v.IsScalar) (op : Comparison)
    (path : Subpath) : (compare path op.flip v).Compares v op path := by
  intro env root current
  have turned (node : Node) : op.flip.holds node.value v = op.holds v node.value :=
    Comparison.holds_flip_of_same_comm (hv.same_comm node.value) op
  simp only [holds, turned]
  cases path.nodes env root current with
  | error e => simp [bind, Except.bind]
  | ok nodes =>
    simp only [bind, Except.bind, pure, Except.pure, Except.ok.injEq]
    exact any_single?

namespace Parser
variable [Pattern.Engine] {env : Environment} {inner : Option Level} {stop : Position}
  {first operator start : Token} {ts rest : List Token} {v : Value} {op : Comparison} {a : Anchor}
  {path : List Segment}

theorem atom_compares (hv : Value.ofKind first.kind = .ok v) (hop : operator.kind = .compare op)
    (hstart : start.kind = Grammar.place a)
    (h : ReadsOn (segments env inner stop ts) path rest) :
    ∃ p, Reads (atom env inner stop (first :: operator :: start :: ts)) p rest ∧
      p.Compares v op (.mk a path) := by
  have literal := literal_of_ofKind hv
  exact ⟨_, atom_flipped literal (flipped_segments hop hstart h),
    Predicate.compares_flipped (Grammar.literal_isScalar literal) op _⟩

end Parser

/-- An atom at the end of the tokens is the whole predicate. -/
theorem Predicate.ofTokens_of_atom [Pattern.Engine] {env : Environment} {ts rest : List Token}
    {p : Predicate}
    (h : Parser.Reads (Parser.atom env (Parser.level env Parser.maxDepth) (Parser.stopOf ts) ts) p
      rest) (hr : Parser.peek rest = .endOfQuery) : ofTokens env ts = .ok p := by
  obtain ⟨hl, he⟩ : Parser.Reads (Parser.disjunction env (Parser.level env Parser.maxDepth)
      (Parser.stopOf ts) ts) p rest :=
    Parser.chained_reads (Parser.chained_reads h (Parser.chain_stop (by simp [hr])))
      (Parser.chain_stop (by simp [hr]))
  simp only [ofTokens, Parser.whole, he, hr, bind, Except.bind, pure, Except.pure]

/-- The operators follow one order of values, and exchanging the sides of one changes nothing. So
what is parsed from a literal, an operator and a path compares the literal with the one node of the
path, inside any filter and as a predicate of its own. -/
theorem Comparison.consistent [Pattern.Engine] :
    (∀ a : Value, a.Distinct → le.holds a a = true) ∧
    (∀ a b c, le.holds a b = true → le.holds b c = true → le.holds a c = true) ∧
    (∀ a b, le.holds a b = true → le.holds b a = true → eq.holds a b = true) ∧
    (∀ a b, lt.holds a b = true ↔ le.holds a b = true ∧ ne.holds a b = true) ∧
    (∀ a b, ne.holds a b = !eq.holds a b) ∧
    (∀ x y, le.holds (.number x) (.number y) = true ∨ le.holds (.number y) (.number x) = true) ∧
    (∀ s t, le.holds (.string s) (.string t) = true ∨ le.holds (.string t) (.string s) = true) ∧
    (∀ (a b : Value) (op : Comparison), a.Distinct → b.Distinct →
      op.holds a b = op.flip.holds b a) ∧
    (∀ env inner stop (first operator start : Token) ts rest v op a path,
      Value.ofKind first.kind = .ok v → operator.kind = .compare op →
      start.kind = Grammar.place a → Parser.ReadsOn (Parser.segments env inner stop ts) path rest →
      ∃ p, Parser.Reads (Parser.atom env inner stop (first :: operator :: start :: ts)) p rest ∧
        (inner = Parser.level env Parser.maxDepth →
          stop = Parser.stopOf (first :: operator :: start :: ts) →
          Parser.peek rest = .endOfQuery →
          Predicate.ofTokens env (first :: operator :: start :: ts) = .ok p) ∧
        p.Compares v op (.mk a path)) := by
  refine ⟨fun _ => le_refl, fun _ _ _ => le_trans, fun _ _ => le_antisymm, lt_iff_le_and_ne,
    fun _ _ => rfl, number_total, string_total, ?_, ?_⟩
  · exact fun _ _ op ha hb => (holds_flip op ha hb).symm
  · intro env inner stop first operator start ts rest v op a path hv hop hstart h
    obtain ⟨p, hp, compares⟩ := Parser.atom_compares hv hop hstart h
    refine ⟨p, hp, ?_, compares⟩
    rintro rfl rfl hr
    exact Predicate.ofTokens_of_atom hp hr

/-- The members `a` and `b`, in either order. -/
def Value.inOrder : Value := .object [("a", .null), ("b", .bool true)]

def Value.reversed : Value := .object [("b", .bool true), ("a", .null)]

/-- Two objects of the same members, strings and numbers that differ, and the filter
`"b" < @.a`. -/
theorem Comparison.consistent_reordered :
    Value.inOrder.Distinct ∧ Value.reversed.Distinct ∧
      le.holds .inOrder .inOrder = true ∧
      le.holds .inOrder .reversed = ge.holds .reversed .inOrder ∧
      eq.holds .inOrder .reversed = true ∧
      le.holds (.string "a") (.string "b") = true ∧ le.holds (.string "b") (.string "c") = true ∧
      le.holds (.string "a") (.string "c") = true ∧
      lt.holds (.ofNat 1) (.ofNat 2) = true ∧ gt.holds (.ofNat 2) (.ofNat 1) = true ∧
      le.holds (.ofNat 2) (.ofNat 1) = false ∧ eq.holds (.string "a") (.string "b") = false ∧
      ne.holds (.string "a") (.string "b") = true ∧
      ∃ p, Predicate.ofTokens .standard (Query.bareTokens [.string .double "b", .compare .lt,
          .current, .dot, .name "a", .endOfQuery]) = .ok p ∧
        p.Compares (.string "b") .lt (.mk .current [.field "a"]) := by
  have here : Value.inOrder.Distinct := .object (by decide) (by simp)
  have there : Value.reversed.Distinct := .object (by decide) (by simp)
  have first : le.holds (.string "a") (.string "b") = true := by decide
  have second : le.holds (.string "b") (.string "c") = true := by decide
  have apart : eq.holds (.string "a") (.string "b") = false := by decide
  have less : lt.holds (.ofNat 1) (.ofNat 2) = true := by decide +kernel
  have plain (n : Nat) : (Value.ofNat n).Distinct := .number _
  obtain ⟨refl, trans, antisymm, -, negation, -, -, flip, parsed⟩ := consistent
  have differ : ne.holds (.string "a") (.string "b") = true := by rw [negation, apart]; rfl
  refine ⟨here, there, refl _ here, flip _ _ .le here there, antisymm _ _ (by decide) (by decide),
    first, second, trans _ _ _ first second, less, flip _ _ .lt (plain 1) (plain 2) ▸ less,
    by decide +kernel, apart, differ, ?_⟩
  have path : Parser.ReadsOn (Parser.segments .standard (Parser.level .standard Parser.maxDepth)
      {} (Query.bareTokens [.dot, .name "a"] ++ Query.bareTokens [.endOfQuery])) [.field "a"]
      (Query.bareTokens [.endOfQuery]) :=
    Parser.segments_complete (Parser.level_complete _ _) (.shorthand (.bare (.name "a")) .nil) rfl
      (by decide)
  obtain ⟨p, -, whole, compares⟩ := parsed _ _ _ ⟨.string .double "b", "", 0, 0, {}⟩
    ⟨.compare .lt, "", 0, 0, {}⟩ ⟨.current, "", 0, 0, {}⟩ _ _ (.string "b") .lt .current _ (by rfl)
    rfl rfl path
  exact ⟨p, whole rfl rfl rfl, compares⟩

end PathQuery
