import PathQuery.Proofs.Query.Acceptance
import PathQuery.Proofs.Token.Lexemes

/-! How deep the trees of accepted queries are: the parser counts the levels of filters and
negations, but not those of its chains of operators. -/
namespace PathQuery
open Token Grammar

section
variable [Pattern.Engine] (joint : Nat)

mutual

/-- Levels on the longest way down into a segment: one for each filter and each negation, and
`joint` for each connective. -/
def Segment.height : Segment → Nat
  | .filter p => p.height + 1
  | _ => 0
termination_by structural s => s

def Predicate.height : Predicate → Nat
  | .present path => path.height
  | .compare path _ _ => path.height
  | .resembles path _ => path.height
  | .not p => p.height + 1
  | .logical _ left right => max left.height right.height + joint
termination_by structural p => p

def Subpath.height : Subpath → Nat
  | .mk _ segments => segmentsHeight segments
termination_by structural p => p

def segmentsHeight : List Segment → Nat
  | [] => 0
  | segment :: rest => max segment.height (segmentsHeight rest)
termination_by structural segments => segments

end

/-- The height of the tree of a query. -/
def Query.height (q : Query) : Nat := segmentsHeight joint q.segments

end

/-- The number of connectives among the tokens. -/
def connectives (ks : List Kind) : Nat := ks.countP fun k => k = .and ∨ k = .or

theorem connectives_joined {k : Kind} (hk : k = .and ∨ k = .or) (ks ks' : List Kind) :
    connectives (ks ++ k :: ks') = connectives ks + connectives ks' + 1 := by
  simp [connectives, hk, Nat.add_assoc]

namespace Grammar
variable [Pattern.Engine] {env : Environment} {joint : Nat}

omit [Pattern.Engine] in
/-- Tokens around a part have no fewer connectives than the part. -/
theorem height_le_of_sublist {height n : Nat} {ks ks' : List Kind}
    (h : height ≤ n + joint * connectives ks) (hs : ks.Sublist ks') :
    height ≤ n + joint * connectives ks' := by
  have hle : connectives ks ≤ connectives ks' := hs.countP_le
  have hmore := Nat.mul_le_mul_left joint hle
  omega

/-- The token of a connective makes up for the connective. -/
theorem height_logical_le {p q : Predicate} {op : Connective} {k : Kind} {ks ks' : List Kind}
    {n : Nat} (hk : k = .and ∨ k = .or) (hp : p.height joint ≤ n + joint * connectives ks)
    (hq : q.height joint ≤ n + joint * connectives ks') :
    (Predicate.logical op p q).height joint ≤ n + joint * connectives (ks ++ k :: ks') := by
  have htotal : joint * connectives (ks ++ k :: ks') =
      joint * connectives ks + joint * connectives ks' + joint := by
    rw [connectives_joined hk, Nat.mul_add, Nat.mul_add, Nat.mul_one]
  have hlogical : (Predicate.logical op p q).height joint =
      max (p.height joint) (q.height joint) + joint := rfl
  omega

theorem height_cons_le {s : Segment} {more : List Segment} {n : Nat} {ks ks' : List Kind}
    (hs : s.height joint ≤ n + joint * connectives ks)
    (hm : segmentsHeight joint more ≤ n + joint * connectives ks') :
    segmentsHeight joint (s :: more) ≤ n + joint * connectives (ks ++ ks') :=
  Nat.max_le.2 ⟨height_le_of_sublist hs (List.sublist_append_left _ _),
    height_le_of_sublist hm (List.sublist_append_right _ _)⟩

theorem height_bare {k : Kind} {s : Segment} (h : Bare k s) : s.height joint = 0 := by
  cases h <;> rfl

theorem height_call {ks : List Kind} {s : Segment} (h : Call env ks s) :
    s.height joint = 0 := by
  cases h <;> rfl

theorem height_shorthand {ks : List Kind} {s : Segment} (h : Shorthand env ks s) :
    s.height joint = 0 := by
  cases h with
  | bare h => exact height_bare h
  | call h => exact height_call h

mutual

theorem selection_height_le {n : Nat} {ks : List Kind} {s : Segment} :
    Selection env n ks s → s.height joint ≤ n + joint * connectives ks
  | .wild | .index _ | .slice _ | .name _ | .names .. => Nat.zero_le _
  | .call h => height_call h ▸ Nat.zero_le _
  | .filter h => by
    have inside := disjunction_height_le h
    have hsub := height_le_of_sublist inside
      (((List.sublist_append_left _ [.closeBracket]).cons .question).cons .openBracket)
    show Predicate.height joint _ + 1 ≤ _
    omega

theorem descendant_height_le {n : Nat} {ks : List Kind} {s : Segment} :
    Descendant env n ks s → s.height joint ≤ n + joint * connectives ks
  | .bare h => height_bare h ▸ Nat.zero_le _
  | .selection h => selection_height_le h

theorem path_height_le {n : Nat} {ks : List Kind} {path : List Segment} :
    Path env n ks path → segmentsHeight joint path ≤ n + joint * connectives ks
  | .nil => Nat.zero_le _
  | .descendant h rest =>
    Nat.max_le.2 ⟨Nat.zero_le _,
      height_le_of_sublist (height_cons_le (descendant_height_le h) (path_height_le rest))
        (List.sublist_cons_self _ _)⟩
  | .shorthand h rest =>
    height_le_of_sublist
      (height_cons_le (height_shorthand h ▸ Nat.zero_le _) (path_height_le rest))
      (List.sublist_cons_self _ _)
  | .selection h rest => height_cons_le (selection_height_le h) (path_height_le rest)

theorem disjunction_height_le {n : Nat} {ks : List Kind} {p : Predicate} :
    Disjunction env n ks p → p.height joint ≤ n + joint * connectives ks
  | .one h => conjunction_height_le h
  | .or left right =>
    height_logical_le (.inr rfl) (disjunction_height_le left) (conjunction_height_le right)

theorem conjunction_height_le {n : Nat} {ks : List Kind} {p : Predicate} :
    Conjunction env n ks p → p.height joint ≤ n + joint * connectives ks
  | .one h => atom_height_le h
  | .and left right =>
    height_logical_le (.inl rfl) (conjunction_height_le left) (atom_height_le right)

theorem atom_height_le {n : Nat} {ks : List Kind} {p : Predicate} :
    Atom env n ks p → p.height joint ≤ n + joint * connectives ks
  | .paren h => by
    have hsub := height_le_of_sublist (disjunction_height_le h)
      ((List.sublist_append_left _ [.closeParen]).cons .openParen)
    omega
  | .not h => by
    have hsub := height_le_of_sublist (atom_height_le h)
      (List.sublist_cons_self .not _)
    show Predicate.height joint _ + 1 ≤ _
    omega
  | .present _ h =>
    height_le_of_sublist (path_height_le h) (List.sublist_cons_self _ _)
  | .compare _ _ h _ =>
    height_le_of_sublist (path_height_le h) ((List.sublist_append_left _ _).cons _)
  | .resembles _ h _ =>
    height_le_of_sublist (path_height_le h) ((List.sublist_append_left _ _).cons _)
  | .flipped _ _ _ h =>
    height_le_of_sublist (path_height_le h) (((List.Sublist.refl _).cons _).cons _ |>.cons _)

end

theorem text_height_le {ks : List Kind} {q : Query} (h : Text env ks q) :
    q.height joint ≤ Parser.maxDepth + joint * connectives ks := by
  cases h with
  | root path => exact height_le_of_sublist (path_height_le path) (List.sublist_cons_self _ _)

end Grammar

namespace Query
section
variable [Pattern.Engine] {env : Environment} {text : String} {q : Query}

/-- With `joint` zero: filters and negations nest no deeper than the limit. With `joint` one: a
tree is higher than the limit only by the connectives of its text. -/
theorem height_le_of_parse (h : parse env text = .ok q) (joint : Nat) :
    q.height joint ≤
      Parser.maxDepth + joint * connectives ((Lexer.tokenize text).map Token.kind) := by
  simp only [parse, bind_eq_ok] at h
  obtain ⟨ts, hl, h⟩ := h
  obtain ⟨used, rest, rfl, -, ht⟩ := ofTokens_sound (lex_shaped hl) h
  rw [tokenize_of_lex hl]
  exact height_le_of_sublist (text_height_le ht) ((List.sublist_append_left _ _).map _)

end

theorem height_le_of_parse_not :
    parse .standard "$[?!@&&@]" = .ok ⟨[.filter (.logical .and
        (.not (.present (.mk .current []))) (.present (.mk .current [])))]⟩ ∧
      height 1 ⟨[.filter (.logical .and
        (.not (.present (.mk .current []))) (.present (.mk .current [])))]⟩ ≤
          Parser.maxDepth + 1 * connectives ((Lexer.tokenize "$[?!@&&@]").map Token.kind) := by
  have candidate (n : Nat) : Atom .standard n [.current] (.present (.mk .current [])) :=
    .present .current .nil
  have filter := Selection.filter (.one (.and (.one (.not (candidate 62))) (candidate 63)))
  have text : Text .standard _ _ := .root (.selection filter .nil)
  have parsed : parse .standard "$[?!@&&@]" = _ := parse_of_text (by decide) text
  exact ⟨parsed, height_le_of_parse parsed 1⟩

/-! Chains -/

/-- The candidate itself, `n` times more with `and` in between. -/
def chain [Pattern.Engine] : Nat → Predicate
  | 0 => .present (.mk .current [])
  | n + 1 => .logical .and (chain n) (.present (.mk .current []))

def chainKinds (n : Nat) : List Kind := (List.replicate n [Kind.and, .current]).flatten

def chainText (n : Nat) : List Char := (List.replicate n ['&', '&', '@']).flatten

theorem height_chain [Pattern.Engine] (n : Nat) : (chain n).height 1 = n := by
  induction n with
  | zero => rfl
  | succ n ih =>
    show max ((chain n).height 1) 0 + 1 = n + 1
    omega

theorem chain_derived [Pattern.Engine] (env : Environment) (m n : Nat) :
    Conjunction env m (.current :: chainKinds n) (chain n) := by
  have candidate : Atom env m [.current] (.present (.mk .current [])) := .present .current .nil
  induction n with
  | zero => exact .one candidate
  | succ n ih =>
    have more : Conjunction env m _ (chain (n + 1)) := .and ih candidate
    have hkinds : chainKinds (n + 1) = chainKinds n ++ [.and, .current] := by
      simp [chainKinds, List.replicate_succ']
    rwa [List.cons_append, ← hkinds] at more

end Query

namespace Lexer
variable {n : Nat} {parens : List Nat} {rest : List Char}

theorem leads_chain (n : Nat) :
    Leads ⟨.segment, 0 :: parens, Query.chainText n ++ rest⟩ (Query.chainKinds n)
      ⟨.segment, 0 :: parens, rest⟩ := by
  induction n with
  | zero => exact .refl _
  | succ n ih =>
    have operator : Leads ⟨.filter, 0 :: parens, '&' :: '&' :: '@' :: (Query.chainText n ++ rest)⟩
        [.and] ⟨.filter, 0 :: parens, '@' :: (Query.chainText n ++ rest)⟩ :=
      .two rfl rfl fun _ => rfl
    have operand : Leads ⟨.filter, 0 :: parens, '@' :: (Query.chainText n ++ rest)⟩ [.current]
        ⟨.segment, 0 :: parens, Query.chainText n ++ rest⟩ := leads_anchor .current
    have all := (leads_pathEnd rfl).trans (operator.cons (operand.cons ih))
    simpa [Query.chainText, Query.chainKinds, List.replicate_succ] using all

end Lexer

namespace Query
open Lexer

/-- A filter with `n` connectives in one chain. -/
def chainQuery (n : Nat) : String := String.ofList (['$', '[', '?', '@'] ++ chainText n ++ [']'])

theorem visible_chainQuery (n : Nat) :
    visible (chainQuery n) = '$' :: '[' :: '?' :: '@' :: (chainText n ++ [']']) := by
  have hnul : '\x00' ∉ chainText n := by
    intro h
    obtain ⟨part, hpart, hm⟩ := List.mem_flatten.1 h
    rw [(List.mem_replicate.1 hpart).2] at hm
    exact absurd hm (by decide)
  rw [visible_eq_toList (by simpa [chainQuery] using hnul), chainQuery, String.toList_ofList]
  rfl

theorem parse_chainQuery [Pattern.Engine] (env : Environment) (n : Nat) :
    parse env (chainQuery n) = .ok ⟨[.filter (chain n)]⟩ := by
  have filter : Leads ⟨.filter, [0], '@' :: (chainText n ++ [']'])⟩
      (.current :: (chainKinds n ++ [.closeBracket])) ⟨.segment, [], []⟩ :=
    have operand : Leads ⟨.filter, [0], '@' :: (chainText n ++ [']'])⟩ [.current]
        ⟨.segment, [0], chainText n ++ [']']⟩ := leads_anchor .current
    operand.cons ((leads_chain n).trans ((leads_pathEnd rfl).trans leads_filterClosed))
  have all := leads_root.cons ((leads_openBracket (.inl rfl)).cons (leads_question.cons
    (filter.trans leads_end)))
  rw [← visible_chainQuery] at all
  have path : Path env Parser.maxDepth _ [.filter (chain n)] :=
    .selection (.filter (.one (chain_derived env 63 n))) .nil
  exact parse_of_text (by simpa using tokenize_of_leads all) (.root path)

/-- No bound holds for all trees: chains of operators are built without being counted. -/
theorem height_unbounded : ¬ ∃ bound, ∀ text q, parse .standard text = .ok q →
    q.height 1 ≤ bound := by
  rintro ⟨bound, h⟩
  have hle := h _ _ (parse_chainQuery .standard bound)
  have hheight : height 1 ⟨[.filter (chain bound)]⟩ = bound + 1 := by
    show max ((chain bound).height 1 + 1) 0 = bound + 1
    rw [height_chain]
    omega
  omega

end Query

end PathQuery
