import PathQuery.Proofs.Query.Grammar

/-! Brackets in the tokens of a query. Those of a filter are balanced, so a filter is cut off at its
own bracket. -/
namespace PathQuery
open Token Grammar

/-- Neither a bracket nor the end of the query. -/
def isPlain : Kind → Bool
  | .openBracket | .closeBracket | .endOfQuery => false
  | _ => true

/-- Brackets close in the order in which they open, and the query does not end. -/
inductive Balanced : List Kind → Prop where
  | nil : Balanced []
  | one {k : Kind} (h : isPlain k = true) : Balanced [k]
  | append {ks ks' : List Kind} (h : Balanced ks) (h' : Balanced ks') : Balanced (ks ++ ks')
  | brackets {ks : List Kind} (h : Balanced ks) :
      Balanced (.openBracket :: (ks ++ [.closeBracket]))

namespace Balanced

theorem cons {k : Kind} {ks : List Kind} (h : Balanced ks) (hk : isPlain k = true) :
    Balanced (k :: ks) :=
  .append (.one hk) h

theorem bound (b : Option Int64) : Balanced (bound b) := by
  cases b with
  | none => exact .nil
  | some i => exact .one rfl

theorem slice {ks : List Kind} {start stop step : Option Int64} (h : Slice ks start stop step) :
    Balanced ks := by
  cases h with
  | two => exact .append (bound _) (.cons (bound _) rfl)
  | three =>
    have hstep := Balanced.cons (k := .colon) (bound step) rfl
    exact .append (bound _) (.cons (.append (bound _) hstep) rfl)

theorem literal {k : Kind} {v : Value} (h : Literal k v) : Balanced [k] := by
  cases h <;> exact .one rfl

theorem quoted {k : Kind} {s : String} (h : Quoted k s) : Balanced [k] := by
  cases h
  exact .one rfl

theorem listed {α : Type} {Item : Kind → α → Prop} {ks : List Kind} {as : List α}
    (item : ∀ k a, Item k a → Balanced [k]) (h : Listed Item ks as) : Balanced ks := by
  induction h with
  | one h => exact item _ _ h
  | cons h _ ih => exact .append (item _ _ h) (.cons ih rfl)

theorem call [Pattern.Engine] {env : Environment} {ks : List Kind} {s : Segment}
    (h : Call env ks s) : Balanced ks := by
  have paren : Balanced [.closeParen] := .one rfl
  cases h with
  | empty => exact .cons (.cons paren rfl) rfl
  | args items =>
    have hitems := (listed (fun _ _ => literal) items).append paren
    exact .cons (.cons hitems rfl) rfl

theorem bare [Pattern.Engine] {k : Kind} {s : Segment} (h : Bare k s) : Balanced [k] := by
  cases h <;> exact .one rfl

theorem shorthand [Pattern.Engine] {env : Environment} {ks : List Kind} {s : Segment}
    (h : Shorthand env ks s) : Balanced ks := by
  cases h with
  | bare h => exact bare h
  | call h => exact call h

theorem place_cons {ks : List Kind} (a : Anchor) (h : Balanced ks) :
    Balanced (place a :: ks) := by
  cases a <;> exact .cons h rfl

variable [Pattern.Engine] {env : Environment}

mutual

theorem selection {n : Nat} {ks : List Kind} {s : Segment} :
    Selection env n ks s → Balanced ks
  | .wild => .brackets (.one rfl)
  | .index _ => .brackets (.one rfl)
  | .slice h => .brackets (slice h)
  | .name h => .brackets (quoted h)
  | .names h _ => .brackets (listed (fun _ _ => quoted) h)
  | .call h => .brackets (call h)
  | .filter h => .brackets (.cons (disjunction h) rfl)

theorem descendant {n : Nat} {ks : List Kind} {s : Segment} :
    Descendant env n ks s → Balanced ks
  | .bare h => bare h
  | .selection h => selection h

theorem path {n : Nat} {ks : List Kind} {segments : List Segment} :
    Path env n ks segments → Balanced ks
  | .nil => .nil
  | .descendant h rest => .cons (.append (descendant h) (path rest)) rfl
  | .shorthand h rest => .cons (.append (shorthand h) (path rest)) rfl
  | .selection h rest => .append (selection h) (path rest)

theorem disjunction {n : Nat} {ks : List Kind} {p : Predicate} :
    Disjunction env n ks p → Balanced ks
  | .one h => conjunction h
  | .or left right =>
    .append (disjunction left) (.cons (conjunction right) rfl)

theorem conjunction {n : Nat} {ks : List Kind} {p : Predicate} :
    Conjunction env n ks p → Balanced ks
  | .one h => atom h
  | .and left right =>
    .append (conjunction left) (.cons (atom right) rfl)

theorem atom {n : Nat} {ks : List Kind} {p : Predicate} : Atom env n ks p → Balanced ks
  | .paren h =>
    .cons (.append (disjunction h) (.one rfl)) rfl
  | .not h => .cons (atom h) rfl
  | .present a h => place_cons a (path h)
  | .compare a op h value =>
    place_cons a (.append (path h) (.cons (literal value) rfl))
  | .resembles a h _ =>
    place_cons a (.append (path h)
      (.cons (.one rfl) rfl))
  | .flipped a op value h =>
    .append (literal value) (.cons (place_cons a (path h)) rfl)

end

omit [Pattern.Engine] in
theorem endOfQuery_notMem {ks : List Kind} (h : Balanced ks) : .endOfQuery ∉ ks := by
  induction h with
  | nil => simp
  | one h =>
    rw [List.mem_singleton]
    rintro rfl
    simp [isPlain] at h
  | append _ _ ih ih' => simp [ih, ih']
  | brackets _ ih => simp [ih]

end Balanced

namespace Parser

/-- Cutting `ts` off at a bracket leaves `rest`. -/
def Cuts (depth : Nat) (ts body : List Token) (closing : Position) (rest : List Token) : Prop :=
  ∃ h, untilClosed? depth ts = some ⟨(body, closing), rest, h⟩

variable {depth : Nat} {ts body rest : List Token} {t : Token} {closing : Position}

theorem Cuts.plain (h : Cuts depth ts body closing rest) (ht : isPlain t.kind = true) :
    Cuts depth (t :: ts) (t :: body) closing rest := by
  obtain ⟨hl, h⟩ := h
  refine ⟨by simp; omega, ?_⟩
  unfold untilClosed?
  split
  case h_5 =>
    dsimp only
    rw [h]
    rfl
  all_goals simp_all [isPlain]

theorem Cuts.opened (h : Cuts (depth + 1) ts body closing rest) (ht : t.kind = .openBracket) :
    Cuts depth (t :: ts) (t :: body) closing rest := by
  obtain ⟨hl, h⟩ := h
  refine ⟨by simp; omega, ?_⟩
  unfold untilClosed?
  split
  case h_2 =>
    dsimp only
    rw [h]
    rfl
  all_goals simp_all

theorem Cuts.closed (h : Cuts depth ts body closing rest) (ht : t.kind = .closeBracket) :
    Cuts (depth + 1) (t :: ts) (t :: body) closing rest := by
  obtain ⟨hl, h⟩ := h
  refine ⟨by simp; omega, ?_⟩
  unfold untilClosed?
  split
  case h_4 =>
    simp_all
    rfl
  all_goals simp_all

theorem Cuts.here (ht : t.kind = .closeBracket) : Cuts 0 (t :: rest) [] t.position rest := by
  refine ⟨by simp, ?_⟩
  unfold untilClosed?
  split
  case h_3 => rfl
  all_goals simp_all

/-- Balanced tokens are passed over. -/
theorem Cuts.balanced {used : List Token} (hb : Balanced (used.map Token.kind))
    (h : Cuts depth ts body closing rest) :
    Cuts depth (used ++ ts) (used ++ body) closing rest := by
  generalize hk : used.map Token.kind = ks at hb
  induction hb generalizing used depth ts body with
  | nil => simpa [List.map_eq_nil_iff.1 hk] using h
  | one hp =>
    obtain ⟨t, rfl, rfl⟩ := List.map_eq_singleton_iff.1 hk
    exact h.plain hp
  | append _ _ ih ih' =>
    obtain ⟨front, back, rfl, hf, hb⟩ := List.map_eq_append_iff.1 hk
    simpa using ih (ih' h hb) hf
  | brackets _ ih =>
    obtain ⟨o, tail, rfl, ho, ht⟩ := List.map_eq_cons_iff.1 hk
    obtain ⟨inside, last, rfl, hi, hl⟩ := List.map_eq_append_iff.1 ht
    obtain ⟨c, rfl, hc⟩ := List.map_eq_singleton_iff.1 hl
    simpa using (ih (h.closed hc) hi).opened ho

end Parser
end PathQuery
