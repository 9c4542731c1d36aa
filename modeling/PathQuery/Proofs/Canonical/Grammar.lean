import PathQuery.Proofs.Canonical.Basic

/-! The grammar derives the canonical tokens of a query, within the levels that they open. -/
namespace PathQuery
open Token Grammar

/-- What the grammar needs of a segment and what follows it. -/
def Segment.Derivable [Pattern.Engine] (env : Environment) (s : Segment) (rest : List Segment) :
    Prop :=
  s.Admitted env rest ∧ s.Printable

/-- What the grammar needs of a segment and what follows it, apart from its names. -/
def Segment.Expressible [Pattern.Engine] (env : Environment) (s : Segment) (rest : List Segment) :
    Prop :=
  s.Admitted env rest ∧ s.Writable rest

theorem Segment.Derivable.expressible [Pattern.Engine] {env : Environment} {s : Segment}
    {rest : List Segment} (h : s.Derivable env rest) : s.Expressible env rest := by
  refine ⟨h.1, ?_⟩
  cases s with
  | recursive => exact h.1
  | function => exact h.2
  | _ => trivial

/-! Names, literals and patterns -/

theorem quoted_nameKind (name : String) : Quoted (nameKind name) name := by
  have h : unescape (String.ofList (name.toList.flatMap escapeName)) = .ok name := by
    simp [unescape, Escape.Spelled.decode_flatMap escapeName_spelled]
  exact .mk h

theorem literal_numberKind {text : List Char} {x : Number} (h : Numeral.Prints text x) :
    Literal (Lexer.numberKind text) (.number x) := by
  have hread : Number.ofText? (String.ofList text).toList = some x := by
    rw [String.toList_ofList]
    exact h.ofText?
  unfold Lexer.numberKind
  split
  · exact .float hread
  · exact .int hread

theorem literal_literalKind {v : Value} (h : v.IsScalar) : Literal v.literalKind v.reread := by
  cases v with
  | null => exact .null
  | bool b => cases b <;> constructor
  | number x =>
    simp only [Value.literalKind, Value.reread]
    split
    next hx => exact literal_numberKind (Number.text_prints hx)
    · exact .null
  | string s =>
    have hs : unescape (String.ofList (s.toList.flatMap Json.escape)) = .ok s := by
      simp [unescape, Escape.Spelled.decode_flatMap Json.escape_spelled]
    exact .string hs
  | array | object => exact h.elim

theorem ofRaw_pattern [Pattern.Engine] {p : Pattern} (h : p.Spellable) :
    Pattern.ofRaw (String.ofList (p.source.toList.flatMap Pattern.escapeSlash)) p.flags =
      .ok p := by
  rw [Pattern.ofRaw, unescapeRegex, String.toList_ofList, h.source.escaped.2,
    String.ofList_toList, p.of?_source]

theorem listed_intersperse {α β : Type} {Item : Kind → β → Prop} {kind : α → Kind} {value : α → β}
    {as : List α} (h : ∀ a ∈ as, Item (kind a) (value a)) (hne : as ≠ []) :
    Listed Item ((as.map kind).intersperse .comma) (as.map value) := by
  induction as with
  | nil => exact absurd rfl hne
  | cons a as ih =>
    cases as with
    | nil => exact .one (h a (by simp))
    | cons b as =>
      exact .cons (h a (by simp)) (ih (fun c hc => h c (List.mem_cons_of_mem _ hc)) (by simp))

/-! Slices and calls -/

theorem slice_sliceKinds (start stop : Option Int64) {step : Option Int64} (h : step ≠ some 0) :
    Slice (sliceKinds start stop step) start stop step := by
  cases step with
  | none => simpa [sliceKinds] using Slice.two start stop
  | some i => exact .three start stop (some i) h

theorem accepts_reread {v : Value} (h : v.IsArgument) (type : ParamType) :
    type.accepts v.reread = type.accepts v := by
  cases v with
  | number x =>
    have hx : x.isFinite = true := h
    cases type <;> simp [Value.reread, hx, ParamType.accepts]
  | string s => rfl
  | _ => exact h.elim

theorem mismatch?_reread (index : Nat) (types : List ParamType) {args : List Value}
    (h : ∀ arg ∈ args, arg.IsArgument) (hm : Signature.mismatch? index types args = none) :
    Signature.mismatch? index types (args.map Value.reread) = none := by
  induction args generalizing index types with
  | nil => cases types <;> rfl
  | cons arg args ih =>
    cases types with
    | nil => rfl
    | cons type types =>
      rw [Signature.mismatch?] at hm
      rw [List.map_cons, Signature.mismatch?, accepts_reread (h arg (by simp))]
      split at hm
      next ha =>
        rw [if_pos ha]
        exact ih (index + 1) types (fun a hm => h a (List.mem_cons_of_mem _ hm)) hm
      · simp at hm

theorem resolve_reread {env : Environment} {name : String} {args : List Value} {f : Function}
    (h : ∀ arg ∈ args, arg.IsArgument) (hf : env.resolve name args = .ok f) :
    env.resolve name (args.map Value.reread) = .ok f := by
  unfold Environment.resolve at hf ⊢
  cases hget : env.get? name with
  | none => simp [hget] at hf
  | some g =>
    simp only [hget, Signature.check, List.length_map] at hf ⊢
    by_cases hcount : args.length < g.signature.required ∨ g.signature.params.length < args.length
    · simp [hcount] at hf
    · rw [if_neg hcount] at hf ⊢
      cases hm : Signature.mismatch? 0 g.signature.params args with
      | some cause => simp [hm] at hf
      | none =>
        rw [hm] at hf
        rw [mismatch?_reread 0 g.signature.params h hm]
        exact hf

variable [Pattern.Engine]

theorem call_kinds {env : Environment} {name : String} {args : List Value}
    (ha : ∃ f, env.resolve name args = .ok f) (h : ∀ arg ∈ args, arg.IsArgument) :
    Call env (.function name :: .openParen ::
      ((args.map Value.literalKind).intersperse .comma ++ [.closeParen]))
        (.function name (args.map Value.reread)) := by
  obtain ⟨f, hf⟩ := ha
  have hf' := resolve_reread h hf
  cases args with
  | nil => exact .empty hf'
  | cons arg args =>
    refine .args (listed_intersperse (fun v hv => literal_literalKind ?_) (by simp)) hf'
    have := h v hv
    cases v with
    | array | object => exact this.elim
    | _ => trivial

/-! Queries -/

theorem atom_paren {env : Environment} {n : Nat} {ks : List Kind} {p : Predicate}
    (h : Atom env n ks p) : Atom env (n + 1) (.openParen :: (ks ++ [.closeParen])) p :=
  .paren (.one (.one h))

theorem disjunction_connective {env : Environment} {n : Nat} {ks ks' : List Kind}
    {p q : Predicate} (op : Connective) (left : Atom env n ks p) (right : Atom env n ks' q) :
    Disjunction env n (ks ++ connective op :: ks') (.logical op p q) := by
  cases op with
  | and => exact .one (.and (.one left) right)
  | or => exact .or (.one (.one left)) (.one right)

section
variable {env : Environment}

mutual

theorem Segment.derived : (s : Segment) → ∀ rest, s.Expressible env rest →
    s.Within (Segment.Expressible env) Predicate.Admitted → s ≠ .recursive → ∀ n, s.nesting ≤ n →
    Selection env n s.kinds s.reread
  | .field name, _, _, _, _, _, _ => .name (quoted_nameKind name)
  | .wild, _, _, _, _, _, _ => .wild
  | .recursive, _, _, _, hne, _, _ => absurd rfl hne
  | .index i, _, _, _, _, _, _ => .index i
  | .slice a b _, _, h, _, _, _, _ => .slice (slice_sliceKinds a b h.1)
  | .union names, _, h, _, _, n, _ => by
    have hne : names ≠ [] := List.ne_nil_of_length_pos (Nat.lt_of_lt_of_le Nat.two_pos h.1)
    have list : Listed Quoted ((names.map nameKind).intersperse .comma) (names.map id) :=
      listed_intersperse (fun name _ => quoted_nameKind name) hne
    rw [List.map_id] at list
    exact .names list h.1
  | .filter p, _, _, hw, _, n, hn => by
    obtain ⟨m, rfl⟩ := Nat.exists_eq_add_of_le hn
    have inside := Predicate.derived p hw (p.nesting + m) (Nat.le_add_right _ _)
    have selection := Selection.filter (.one (.one (atom_paren inside)))
    have hlevel : p.nesting + m + 1 + 1 = p.nesting + 2 + m := by omega
    rwa [hlevel] at selection
  | .function _ _, _, h, _, _, _, _ => .call (call_kinds h.1 h.2.2)

theorem Predicate.derived : (p : Predicate) →
    p.Everywhere (Segment.Expressible env) Predicate.Admitted → ∀ n, p.nesting ≤ n →
    Atom env n p.kinds p.reread
  | .present (.mk anchor segments), h, n, hn =>
    .present anchor (segments_derived segments h.2 n hn)
  | .compare (.mk anchor segments) op _, h, n, hn =>
    .compare anchor op (segments_derived segments h.2 n hn) (literal_literalKind h.1)
  | .resembles (.mk anchor segments) _, h, n, hn =>
    .resembles anchor (segments_derived segments h.2 n hn) (ofRaw_pattern h.1)
  | .not p, h, n, hn => by
    obtain ⟨m, rfl⟩ := Nat.exists_eq_add_of_le hn
    have inside := Predicate.derived p h.2 (p.nesting + m) (Nat.le_add_right _ _)
    have atom := Atom.not (atom_paren inside)
    have hlevel : p.nesting + m + 1 + 1 = p.nesting + 2 + m := by omega
    rwa [hlevel] at atom
  | .logical op p q, h, n, hn => by
    obtain ⟨m, rfl⟩ := Nat.exists_eq_add_of_le hn
    have left := Predicate.derived p h.2.1 (max p.nesting q.nesting + m) (by omega)
    have right := Predicate.derived q h.2.2 (max p.nesting q.nesting + m) (by omega)
    have atom := Atom.paren (disjunction_connective op left right)
    have hlevel : max p.nesting q.nesting + m + 1 = max p.nesting q.nesting + 1 + m := by omega
    rwa [hlevel] at atom

theorem segments_derived : (segments : List Segment) →
    everywhere (Segment.Expressible env) Predicate.Admitted segments → ∀ n,
    segmentsNesting segments ≤ n → Path env n (segmentsKinds segments) (rereadSegments segments)
  | [], _, _, _ => .nil
  | [s], h, n, hn => by
    have hs : s ≠ .recursive := by
      rintro rfl
      obtain ⟨next, more, hnil, -⟩ := h.1.1
      simp at hnil
    have hn : max s.nesting 0 ≤ n := hn
    exact .selection (Segment.derived s [] h.1 h.2.1 hs n (by omega)) .nil
  | s :: t :: segments, h, n, hn => by
    by_cases hs : s = .recursive
    · subst hs
      obtain ⟨next, more, hmore, hne⟩ := h.1.1
      obtain ⟨rfl, -⟩ := List.cons.inj hmore
      have hn : max t.nesting (segmentsNesting segments) ≤ n := by
        simpa [segmentsNesting, Segment.nesting] using hn
      have next := Segment.derived t segments h.2.2.1 h.2.2.2.1 hne n (by omega)
      have more := segments_derived segments h.2.2.2.2 n (by omega)
      have path : Path env n (.doubleDot :: (t.kinds ++ segmentsKinds segments)) _ :=
        .descendant (.selection next) more
      exact path
    · have hn : max s.nesting (segmentsNesting (t :: segments)) ≤ n := hn
      have first := Segment.derived s (t :: segments) h.1 h.2.1 hs n (by omega)
      exact .selection first (segments_derived (t :: segments) h.2.2 n (by omega))

end

end

end PathQuery
