import PathQuery.Proofs.Query.Brackets
import PathQuery.Proofs.Query.Soundness

/-! What the grammar derives, the parsers accept, whatever follows that cannot go on. -/
namespace PathQuery
open Token Grammar

namespace Parser
variable {α : Type} {env : Environment} {n : Nat} {stop : Position}
  {ts used rest : List Token}

/-- The value `a` is read, and `rest` is left. -/
def Reads (r : Except SyntaxError (Taken α ts)) (a : α) (rest : List Token) : Prop :=
  ∃ h, r = .ok ⟨a, rest, h⟩

/-- The same where nothing may have been read. -/
def ReadsOn (r : Except SyntaxError (Left α ts)) (a : α) (rest : List Token) : Prop :=
  ∃ h, r = .ok ⟨(a, rest), h⟩

theorem ofKind_of_literal {k : Kind} {v : Value} (h : Literal k v) : Value.ofKind k = .ok v := by
  cases h with
  | string h => simp [Value.ofKind, h, Except.map]
  | int h => simp [Value.ofKind, h]
  | float h => simp [Value.ofKind, h]
  | true => rfl
  | false => rfl
  | null => rfl

theorem literal_complete {t : Token} {v : Value} (h : Literal t.kind v) :
    Reads (literal stop (t :: rest)) v rest := by
  refine ⟨by simp, ?_⟩
  simp [literal, ofKind_of_literal h, locate, bind, Except.bind]
  rfl

theorem regex_complete [Pattern.Engine] {t : Token} {raw flags : String} {pattern : Pattern}
    (ht : t.kind = .regex raw flags) (h : Pattern.ofRaw raw flags = .ok pattern) :
    Reads (regex stop (t :: rest)) pattern rest := by
  refine ⟨by simp, ?_⟩
  simp [regex, ht, h, locate, bind, Except.bind]
  rfl

theorem expect_complete {t : Token} {k : Kind} {cause : Kind → SyntaxError.Cause}
    (ht : t.kind = k) : Reads (expect k cause stop (t :: rest)) () rest :=
  ⟨by simp, by simp [expect, ht]⟩

theorem close_complete {opened t : Token} (ht : t.kind = .closeBracket) :
    Reads (close opened stop (t :: rest)) () rest := by
  obtain ⟨h, he⟩ : Reads (expect .closeBracket .expectedCloseBracket stop (t :: rest)) () rest :=
    expect_complete ht
  refine ⟨h, ?_⟩
  simp [close, peek, ht, he]

theorem sliceParts_stop {t : Token} (parts : List (Option Int64)) (rest : List Token)
    (ht : t.kind = .closeBracket) : ReadsOn (sliceParts parts (t :: rest)) parts (t :: rest) :=
  ⟨by simp, by unfold sliceParts; simp [ht]⟩

theorem sliceParts_colon {parts parts' : List (Option Int64)} {t : Token} {left : List Token}
    (ht : t.kind = .colon) (hp : parts.length < 3)
    (h : ReadsOn (sliceParts (none :: parts) rest) parts' left) :
    ReadsOn (sliceParts parts (t :: rest)) parts' left := by
  obtain ⟨hl, h⟩ := h
  refine ⟨by simp at hl ⊢; omega, ?_⟩
  unfold sliceParts
  simp [ht, h, Nat.not_le.2 hp, bind, Except.bind]
  rfl

theorem sliceParts_bound {older parts' : List (Option Int64)} {left : List Token}
    {b : Option Int64} (hu : used.map Token.kind = bound b)
    (h : ReadsOn (sliceParts (b :: older) rest) parts' left) :
    ReadsOn (sliceParts (none :: older) (used ++ rest)) parts' left := by
  cases b with
  | none =>
    obtain rfl := List.map_eq_nil_iff.1 hu
    exact h
  | some i =>
    obtain ⟨t, rfl, ht⟩ := List.map_eq_singleton_iff.1 hu
    obtain ⟨hl, h⟩ := h
    refine ⟨by simp at hl ⊢; omega, ?_⟩
    simp only [List.singleton_append]
    unfold sliceParts
    simp [ht, h, Int64.ofDigits_indexText, locate, bind, Except.bind]
    rfl

theorem sliceOrIndex_of_parts [Pattern.Engine] {first : Token} {parts : List (Option Int64)}
    {s : Segment}
    (h : ReadsOn (sliceParts [none] ts) parts rest) (ho : ofParts parts.reverse = .ok s) :
    ReadsOn (sliceOrIndex first ts) s rest := by
  obtain ⟨hl, h⟩ := h
  exact ⟨hl, by simp [sliceOrIndex, h, ho, locate, bind, Except.bind]; rfl⟩

theorem sliceOrIndex_complete [Pattern.Engine] {first t : Token} {start stop step : Option Int64}
    {ks : List Kind}
    (h : Slice ks start stop step) (hu : used.map Token.kind = ks) (ht : t.kind = .closeBracket) :
    ReadsOn (sliceOrIndex first (used ++ t :: rest)) (.slice start stop step) (t :: rest) := by
  cases h with
  | two =>
    obtain ⟨front, back, rfl, hf, hb⟩ := List.map_eq_append_iff.1 hu
    obtain ⟨c, back, rfl, hc, hb⟩ := List.map_eq_cons_iff.1 hb
    have hstop := sliceParts_bound hb (sliceParts_stop [stop, start] rest ht)
    have hstart := sliceParts_bound hf (sliceParts_colon hc (by simp) hstop)
    have ho : ofParts [stop, start].reverse = .ok (.slice start stop none) := by simp [ofParts]
    rw [List.append_assoc, List.cons_append]
    exact sliceOrIndex_of_parts hstart ho
  | three _ _ _ h0 =>
    obtain ⟨front, back, rfl, hf, hb⟩ := List.map_eq_append_iff.1 hu
    obtain ⟨c, back, rfl, hc, hb⟩ := List.map_eq_cons_iff.1 hb
    obtain ⟨middle, back, rfl, hm, hb⟩ := List.map_eq_append_iff.1 hb
    obtain ⟨d, back, rfl, hd, hb⟩ := List.map_eq_cons_iff.1 hb
    have hstep := sliceParts_bound hb (sliceParts_stop [step, stop, start] rest ht)
    have hstop := sliceParts_bound hm (sliceParts_colon hd (by simp) hstep)
    have hstart := sliceParts_bound hf (sliceParts_colon hc (by simp) hstop)
    have ho : ofParts [step, stop, start].reverse = .ok (.slice start stop step) := by
      simp [ofParts, h0]
    rw [List.append_assoc, List.cons_append, List.append_assoc, List.cons_append]
    exact sliceOrIndex_of_parts hstart ho

theorem names_last {t : Token} {name : String} (h : Quoted t.kind name)
    (hr : peek rest ≠ .comma) : Reads (names stop (t :: rest)) [name] rest := by
  refine ⟨by simp, ?_⟩
  generalize hk : t.kind = k at h
  cases h with
  | mk hn =>
    unfold names
    simp [hk, hn, hr, locate, bind, Except.bind]
    rfl

theorem names_cons {t comma : Token} {name : String} {more : List String} {left : List Token}
    (h : Quoted t.kind name) (hc : comma.kind = .comma) (hm : Reads (names stop rest) more left) :
    Reads (names stop (t :: comma :: rest)) (name :: more) left := by
  obtain ⟨hl, hm⟩ := hm
  refine ⟨by simp; omega, ?_⟩
  generalize hk : t.kind = k at h
  cases h with
  | mk hn =>
    unfold names
    simp [hk, hn, hc, hm, peek, locate, bind, Except.bind]
    rfl

theorem names_complete {ks : List Kind} {found : List String} (h : Listed Quoted ks found)
    (hu : used.map Token.kind = ks) (hr : peek rest ≠ .comma) :
    Reads (names stop (used ++ rest)) found rest := by
  induction h generalizing used with
  | one h =>
    obtain ⟨t, rfl, rfl⟩ := List.map_eq_singleton_iff.1 hu
    exact names_last h hr
  | cons h _ ih =>
    obtain ⟨t, tail, rfl, rfl, ht⟩ := List.map_eq_cons_iff.1 hu
    obtain ⟨comma, tail, rfl, hc, ht⟩ := List.map_eq_cons_iff.1 ht
    exact names_cons h hc (ih ht)

theorem arguments_last {callee t paren : Token} {arg : Value} (h : Literal t.kind arg)
    (hp : paren.kind = .closeParen) :
    Reads (arguments callee stop (t :: paren :: rest)) [arg] rest := by
  obtain ⟨hl, ha⟩ : Reads (literal stop (t :: paren :: rest)) arg (paren :: rest) :=
    literal_complete h
  refine ⟨by simp only [List.length_cons]; omega, ?_⟩
  unfold arguments
  simp [ha, hp, peek, bind, Except.bind]
  rfl

theorem arguments_cons {callee t comma : Token} {arg : Value} {more : List Value}
    {left : List Token} (h : Literal t.kind arg) (hc : comma.kind = .comma)
    (hm : Reads (arguments callee stop rest) more left) :
    Reads (arguments callee stop (t :: comma :: rest)) (arg :: more) left := by
  obtain ⟨hl, ha⟩ : Reads (literal stop (t :: comma :: rest)) arg (comma :: rest) :=
    literal_complete h
  obtain ⟨hl', hm⟩ := hm
  refine ⟨by simp; omega, ?_⟩
  unfold arguments
  simp [ha, hc, hm, peek, bind, Except.bind]
  rfl

theorem arguments_complete {callee paren : Token} {ks : List Kind} {args : List Value}
    (h : Listed Literal ks args) (hu : used.map Token.kind = ks)
    (hp : paren.kind = .closeParen) :
    Reads (arguments callee stop (used ++ paren :: rest)) args rest := by
  induction h generalizing used with
  | one h =>
    obtain ⟨t, rfl, rfl⟩ := List.map_eq_singleton_iff.1 hu
    exact arguments_last h hp
  | cons h _ ih =>
    obtain ⟨t, tail, rfl, rfl, ht⟩ := List.map_eq_cons_iff.1 hu
    obtain ⟨comma, tail, rfl, hc, ht⟩ := List.map_eq_cons_iff.1 ht
    exact arguments_cons h hc (ih ht)

theorem call_empty [Pattern.Engine] {callee o c : Token} {name : String} {f : Function}
    (hf : env.resolve name [] = .ok f) (ho : o.kind = .openParen) (hc : c.kind = .closeParen) :
    Reads (call env callee name stop (o :: c :: rest)) (.function name []) rest := by
  obtain ⟨hl, he⟩ : Reads (expect .openParen (.expectedArguments name) stop (o :: c :: rest)) ()
    (c :: rest) := expect_complete ho
  refine ⟨by simp only [List.length_cons]; omega, ?_⟩
  simp [call, he, hc, peek, locate, bind, Except.bind, Except.mapError, pure, Except.pure, hf]
  rfl

theorem call_args [Pattern.Engine] {callee o : Token} {name : String} {f : Function}
    {args : List Value} (hf : env.resolve name args = .ok f) (ho : o.kind = .openParen)
    (hp : peek ts ≠ .closeParen) (ha : Reads (arguments callee stop ts) args rest) :
    Reads (call env callee name stop (o :: ts)) (.function name args) rest := by
  obtain ⟨hl, he⟩ : Reads (expect .openParen (.expectedArguments name) stop (o :: ts)) () ts :=
    expect_complete ho
  obtain ⟨hl', ha⟩ := ha
  refine ⟨by simp; omega, ?_⟩
  simp [call, he, hp, ha, locate, bind, Except.bind, Except.mapError, pure, Except.pure,
    Taken.after, hf]
  rfl

theorem peek_listed {paren : Token} {ks : List Kind} {args : List Value}
    (h : Listed Literal ks args) (hu : used.map Token.kind = ks) :
    peek (used ++ paren :: rest) ≠ .closeParen := by
  have head {t : Token} {v : Value} (h : Literal t.kind v) : t.kind ≠ .closeParen := by
    intro hk
    rw [hk] at h
    cases h
  cases h with
  | one h =>
    obtain ⟨t, rfl, rfl⟩ := List.map_eq_singleton_iff.1 hu
    exact head h
  | cons h =>
    obtain ⟨t, tail, rfl, rfl, -⟩ := List.map_eq_cons_iff.1 hu
    exact head h

theorem call_complete [Pattern.Engine] {ks : List Kind} {s : Segment} (h : Call env ks s)
    (hu : used.map Token.kind = ks) :
    ∃ callee tail name, used = callee :: tail ∧ callee.kind = .function name ∧
      ∀ stop rest, Reads (call env callee name stop (tail ++ rest)) s rest := by
  cases h with
  | @empty name f hf =>
    obtain ⟨callee, tail, rfl, hn, ht⟩ := List.map_eq_cons_iff.1 hu
    obtain ⟨o, tail, rfl, ho, ht⟩ := List.map_eq_cons_iff.1 ht
    obtain ⟨c, rfl, hc⟩ := List.map_eq_singleton_iff.1 ht
    exact ⟨callee, _, name, rfl, hn, fun _ _ => call_empty hf ho hc⟩
  | @args name f ks args items hf =>
    obtain ⟨callee, tail, rfl, hn, ht⟩ := List.map_eq_cons_iff.1 hu
    obtain ⟨o, tail, rfl, ho, ht⟩ := List.map_eq_cons_iff.1 ht
    obtain ⟨inside, last, rfl, hi, hl⟩ := List.map_eq_append_iff.1 ht
    obtain ⟨c, rfl, hc⟩ := List.map_eq_singleton_iff.1 hl
    refine ⟨callee, _, name, rfl, hn, ?_⟩
    intro stop rest
    rw [List.cons_append, List.append_assoc, List.singleton_append]
    exact call_args hf ho (peek_listed items hi) (arguments_complete items hi hc)

/-- What may follow an operand. -/
def ends : List Kind := [.and, .or, .closeParen, .endOfQuery]

variable [Pattern.Engine] {inner : Option Level}

/-- A level accepts what the grammar derives with the levels that are left below. -/
structure Complete (env : Environment) (l : Level) (n : Nat) : Prop where
  disjunction : ∀ stop used rest p, Disjunction env n (used.map Token.kind) p →
    peek rest = .closeParen ∨ peek rest = .endOfQuery →
    Reads (l.disjunction stop (used ++ rest)) p rest
  atom : ∀ stop used rest p, Atom env n (used.map Token.kind) p →
    peek rest ∈ ends → Reads (l.atom stop (used ++ rest)) p rest

def CompleteBelow (env : Environment) (inner : Option Level) (n : Nat) : Prop :=
  ∀ m, n = m + 1 → ∃ l, inner = some l ∧ Complete env l m

omit [Pattern.Engine] in
theorem Reads.nonempty {r : Except SyntaxError (Taken α ts)} {a : α} (h : Reads r a rest) :
    ts ≠ [] := by
  obtain ⟨hl, -⟩ := h
  rintro rfl
  simp at hl

theorem filter_complete (below : CompleteBelow env inner n) {m : Nat} {question closing : Token}
    {p : Predicate} (hn : n = m + 1) (h : Disjunction env m (used.map Token.kind) p)
    (hc : closing.kind = .closeBracket) :
    Reads (filter inner question (used ++ closing :: rest)) (.filter p) rest := by
  obtain ⟨l, rfl, complete⟩ := below m hn
  have hd := complete.disjunction closing.position used [] p h (.inr rfl)
  have hhere : Cuts 0 (closing :: rest) [] closing.position rest := .here hc
  obtain ⟨hcl, hcut⟩ := hhere.balanced (Balanced.disjunction h)
  rw [List.append_nil] at hd hcut
  have hne : used ≠ [] := hd.nonempty
  obtain ⟨hl, hd⟩ := hd
  refine ⟨hcl, ?_⟩
  simp [filter, hcut, hne, nested, whole, hd, peek, bind, Except.bind, pure, Except.pure]
  rfl

theorem close_bracket {opened c : Token} {s : Segment} {left : List Token}
    (hl : left.length ≤ ts.length) (hc : c.kind = .closeBracket) (hleft : left = c :: rest) :
    Reads (do
      let closed ← close opened stop left
      return (closed.map fun _ => s).after hl) s rest := by
  subst hleft
  obtain ⟨h, he⟩ : Reads (close opened stop (c :: rest)) () rest := close_complete hc
  refine ⟨by simp at hl; omega, ?_⟩
  simp [he, bind, Except.bind, pure, Except.pure]
  rfl

omit [Pattern.Engine] in
/-- Tokens between brackets. -/
theorem exists_brackets (ks : List Kind)
    (hu : used.map Token.kind = .openBracket :: (ks ++ [.closeBracket])) :
    ∃ opened inside closed, used = opened :: (inside ++ [closed]) ∧
      opened.kind = .openBracket ∧ inside.map Token.kind = ks ∧ closed.kind = .closeBracket := by
  obtain ⟨o, tail, rfl, ho, ht⟩ := List.map_eq_cons_iff.1 hu
  obtain ⟨inside, last, rfl, hi, hl⟩ := List.map_eq_append_iff.1 ht
  obtain ⟨c, rfl, hc⟩ := List.map_eq_singleton_iff.1 hl
  exact ⟨o, inside, c, rfl, ho, hi, hc⟩

theorem brackets_wild {opened t c : Token} (ht : t.kind = .star) (hc : c.kind = .closeBracket) :
    Reads (brackets env inner opened stop (t :: c :: rest)) .wild rest := by
  unfold brackets
  simp only [ht]
  exact close_bracket _ hc rfl

theorem brackets_subscript {opened c : Token} {s : Segment}
    (hp : peek ts = .colon ∨ ∃ digits, peek ts = .int digits)
    (h : ∀ first, ReadsOn (sliceOrIndex first ts) s (c :: rest)) (hc : c.kind = .closeBracket) :
    Reads (brackets env inner opened stop ts) s rest := by
  cases ts with
  | nil => simp [peek] at hp
  | cons t tail =>
    obtain ⟨hl, he⟩ := h t
    unfold brackets
    rcases hp with hp | ⟨digits, hp⟩ <;> simp only [peek] at hp <;> simp only [hp, he] <;>
      exact close_bracket _ hc rfl

omit [Pattern.Engine] in
theorem peek_slice {ks : List Kind} {start stop step : Option Int64} (h : Slice ks start stop step)
    (hu : used.map Token.kind = ks) :
    peek (used ++ rest) = .colon ∨ ∃ digits, peek (used ++ rest) = .int digits := by
  have head {b : Option Int64} {ks : List Kind}
      (hu : used.map Token.kind = bound b ++ .colon :: ks) :
      peek (used ++ rest) = .colon ∨ ∃ digits, peek (used ++ rest) = .int digits := by
    cases b with
    | none =>
      obtain ⟨t, tail, rfl, ht, -⟩ := List.map_eq_cons_iff.1 hu
      exact .inl ht
    | some i =>
      obtain ⟨t, tail, rfl, ht, -⟩ := List.map_eq_cons_iff.1 hu
      exact .inr ⟨_, ht⟩
  cases h with
  | two => exact head hu
  | three => exact head hu

theorem brackets_names {opened t c : Token} {quote : Quote} {raw : String} {found : List String}
    (ht : t.kind = .string quote raw) (h : Reads (names stop (t :: ts)) found (c :: rest))
    (hc : c.kind = .closeBracket) :
    Reads (brackets env inner opened stop (t :: ts)) (ofNames found) rest := by
  obtain ⟨hl, he⟩ := h
  unfold brackets
  simp only [ht, he]
  exact close_bracket _ hc rfl

omit [Pattern.Engine] in
theorem exists_quoted {ks : List Kind} {found : List String} (h : Listed Quoted ks found)
    (hu : used.map Token.kind = ks) :
    ∃ t tail quote raw, used = t :: tail ∧ t.kind = .string quote raw := by
  have head {k : Kind} {name : String} (h : Quoted k name) :
      ∃ quote raw, k = .string quote raw := by
    cases h
    exact ⟨_, _, rfl⟩
  cases h with
  | one h =>
    obtain ⟨t, rfl, rfl⟩ := List.map_eq_singleton_iff.1 hu
    obtain ⟨quote, raw, ht⟩ := head h
    exact ⟨t, _, quote, raw, rfl, ht⟩
  | cons h =>
    obtain ⟨t, tail, rfl, rfl, -⟩ := List.map_eq_cons_iff.1 hu
    obtain ⟨quote, raw, ht⟩ := head h
    exact ⟨t, _, quote, raw, rfl, ht⟩

theorem ofNames_of_two_le {found : List String} (h : 2 ≤ found.length) :
    ofNames found = .union found := by
  unfold ofNames
  split
  · simp at h
  · rfl

theorem brackets_quoted {ks : List Kind} {found : List String} (h : Listed Quoted ks found)
    (hu : used.map Token.kind = .openBracket :: (ks ++ [.closeBracket])) :
    ∃ opened tail, used = opened :: tail ∧ opened.kind = .openBracket ∧
      ∀ stop rest, Reads (brackets env inner opened stop (tail ++ rest)) (ofNames found) rest := by
  obtain ⟨o, inside, c, rfl, ho, hi, hc⟩ := exists_brackets _ hu
  obtain ⟨t, tail, quote, raw, rfl, ht⟩ := exists_quoted h hi
  refine ⟨o, _, rfl, ho, ?_⟩
  intro stop rest
  have hnames : Reads (names stop ((t :: tail) ++ c :: rest)) _ (c :: rest) :=
    names_complete h hi (by simp [peek, hc])
  rw [List.append_assoc, List.singleton_append]
  exact brackets_names ht hnames hc

theorem brackets_call {opened callee c : Token} {name : String} {s : Segment}
    (hn : callee.kind = .function name)
    (h : Reads (call env callee name stop ts) s (c :: rest)) (hc : c.kind = .closeBracket) :
    Reads (brackets env inner opened stop (callee :: ts)) s rest := by
  obtain ⟨hl, he⟩ := h
  unfold brackets
  simp only [hn, he]
  exact close_bracket _ hc rfl

theorem brackets_filter {opened question : Token} {s : Segment}
    (hq : question.kind = .question) (h : Reads (filter inner question ts) s rest) :
    Reads (brackets env inner opened stop (question :: ts)) s rest := by
  obtain ⟨hl, he⟩ := h
  refine ⟨by simp; omega, ?_⟩
  unfold brackets
  simp only [hq, he]
  rfl

theorem brackets_complete (below : CompleteBelow env inner n) {ks : List Kind} {s : Segment}
    (h : Selection env n ks s) (hu : used.map Token.kind = ks) :
    ∃ opened tail, used = opened :: tail ∧ opened.kind = .openBracket ∧
      ∀ stop rest, Reads (brackets env inner opened stop (tail ++ rest)) s rest := by
  cases h with
  | wild =>
    obtain ⟨o, inside, c, rfl, ho, hi, hc⟩ := exists_brackets [.star] hu
    obtain ⟨t, rfl, ht⟩ := List.map_eq_singleton_iff.1 hi
    exact ⟨o, _, rfl, ho, fun stop rest => brackets_wild ht hc⟩
  | index i =>
    obtain ⟨o, inside, c, rfl, ho, hi, hc⟩ := exists_brackets (bound (some i)) hu
    obtain ⟨t, rfl, ht⟩ := List.map_eq_singleton_iff.1 hi
    refine ⟨o, _, rfl, ho, fun stop rest => brackets_subscript (.inr ⟨_, ht⟩) (fun first => ?_) hc⟩
    have hparts : ReadsOn (sliceParts [none] ([t] ++ c :: rest)) [some i] (c :: rest) :=
      sliceParts_bound hi (sliceParts_stop [some i] rest hc)
    exact sliceOrIndex_of_parts hparts rfl
  | slice h =>
    obtain ⟨o, inside, c, rfl, ho, hi, hc⟩ := exists_brackets _ hu
    refine ⟨o, _, rfl, ho, ?_⟩
    intro stop rest
    rw [List.append_assoc, List.singleton_append]
    exact brackets_subscript (peek_slice h hi) (fun first => sliceOrIndex_complete h hi hc) hc
  | name h => exact brackets_quoted (.one h) hu
  | names h several => exact ofNames_of_two_le several ▸ brackets_quoted h hu
  | call h =>
    obtain ⟨o, inside, c, rfl, ho, hi, hc⟩ := exists_brackets _ hu
    obtain ⟨callee, inside, name, rfl, hn, hcall⟩ := call_complete h hi
    refine ⟨o, _, rfl, ho, ?_⟩
    intro stop rest
    rw [List.append_assoc, List.singleton_append]
    exact brackets_call hn (hcall stop (c :: rest)) hc
  | filter h =>
    obtain ⟨o, inside, c, rfl, ho, hi, hc⟩ := exists_brackets (.question :: _) hu
    obtain ⟨q, inside, rfl, hq, rfl⟩ := List.map_eq_cons_iff.1 hi
    refine ⟨o, _, rfl, ho, ?_⟩
    intro stop rest
    rw [List.append_assoc, List.singleton_append]
    exact brackets_filter hq (filter_complete below rfl h hc)

theorem descendant_complete (below : CompleteBelow env inner n) {ks : List Kind} {s : Segment}
    (h : Descendant env n ks s) (hu : used.map Token.kind = ks) :
    Reads (descendant env inner stop (used ++ rest)) s rest := by
  cases h with
  | bare h =>
    obtain ⟨t, rfl, rfl⟩ := List.map_eq_singleton_iff.1 hu
    generalize hk : t.kind = k at h
    cases h with
    | name | wild => exact ⟨by simp, by simp [descendant, hk]⟩
  | selection h =>
    obtain ⟨o, tail, rfl, ho, hb⟩ := brackets_complete below h hu
    obtain ⟨hl, he⟩ := hb stop rest
    refine ⟨by simp only [List.cons_append, List.length_cons]; omega, ?_⟩
    simp only [List.cons_append, descendant, ho, he]
    rfl

theorem shorthand_complete {ks : List Kind} {s : Segment} (h : Shorthand env ks s)
    (hu : used.map Token.kind = ks) : Reads (shorthand env stop (used ++ rest)) s rest := by
  cases h with
  | bare h =>
    obtain ⟨t, rfl, rfl⟩ := List.map_eq_singleton_iff.1 hu
    generalize hk : t.kind = k at h
    cases h with
    | name | wild => exact ⟨by simp, by simp [shorthand, hk]⟩
  | call h =>
    obtain ⟨callee, tail, name, rfl, hn, hc⟩ := call_complete h hu
    obtain ⟨hl, he⟩ := hc stop rest
    refine ⟨by simp only [List.cons_append, List.length_cons]; omega, ?_⟩
    simp only [List.cons_append, shorthand, hn, he]
    rfl

theorem segments_stop (hr : peek rest ∉ [.doubleDot, .dot, .openBracket]) :
    ReadsOn (segments env inner stop rest) [] rest := by
  refine ⟨by simp, ?_⟩
  cases rest with
  | nil => unfold segments; rfl
  | cons t rest =>
    simp [peek] at hr
    unfold segments
    split <;> simp_all

theorem segments_descendant {d : Token} {s : Segment} {more : List Segment} {left : List Token}
    (hd : d.kind = .doubleDot) (h : Reads (descendant env inner stop ts) s left)
    (hm : ReadsOn (segments env inner stop left) more rest) :
    ReadsOn (segments env inner stop (d :: ts)) (.recursive :: s :: more) rest := by
  obtain ⟨hl, he⟩ := h
  obtain ⟨hl', he'⟩ := hm
  refine ⟨by simp at hl hl' ⊢; omega, ?_⟩
  unfold segments
  simp [hd, he, he', bind, Except.bind, pure, Except.pure]

theorem segments_shorthand {d : Token} {s : Segment} {more : List Segment} {left : List Token}
    (hd : d.kind = .dot) (h : Reads (shorthand env stop ts) s left)
    (hm : ReadsOn (segments env inner stop left) more rest) :
    ReadsOn (segments env inner stop (d :: ts)) (s :: more) rest := by
  obtain ⟨hl, he⟩ := h
  obtain ⟨hl', he'⟩ := hm
  refine ⟨by simp at hl hl' ⊢; omega, ?_⟩
  unfold segments
  simp [hd, he, he', bind, Except.bind, pure, Except.pure]

theorem segments_brackets {o : Token} {s : Segment} {more : List Segment} {left : List Token}
    (ho : o.kind = .openBracket) (h : Reads (brackets env inner o stop ts) s left)
    (hm : ReadsOn (segments env inner stop left) more rest) :
    ReadsOn (segments env inner stop (o :: ts)) (s :: more) rest := by
  obtain ⟨hl, he⟩ := h
  obtain ⟨hl', he'⟩ := hm
  refine ⟨by simp at hl hl' ⊢; omega, ?_⟩
  unfold segments
  simp [ho, he, he', bind, Except.bind, pure, Except.pure]

theorem segments_complete (below : CompleteBelow env inner n) {ks : List Kind}
    {path : List Segment} : Path env n ks path → ∀ {used : List Token}, used.map Token.kind = ks →
      peek rest ∉ [.doubleDot, .dot, .openBracket] →
      ReadsOn (segments env inner stop (used ++ rest)) path rest
  | .nil, used, hu, hr => by
    obtain rfl := List.map_eq_nil_iff.1 hu
    exact segments_stop hr
  | .descendant h more, used, hu, hr => by
    obtain ⟨d, tail, rfl, hd, ht⟩ := List.map_eq_cons_iff.1 hu
    obtain ⟨front, back, rfl, hf, hb⟩ := List.map_eq_append_iff.1 ht
    rw [List.cons_append, List.append_assoc]
    exact segments_descendant hd (descendant_complete below h hf)
      (segments_complete below more hb hr)
  | .shorthand h more, used, hu, hr => by
    obtain ⟨d, tail, rfl, hd, ht⟩ := List.map_eq_cons_iff.1 hu
    obtain ⟨front, back, rfl, hf, hb⟩ := List.map_eq_append_iff.1 ht
    rw [List.cons_append, List.append_assoc]
    exact segments_shorthand hd (shorthand_complete h hf) (segments_complete below more hb hr)
  | .selection h more, used, hu, hr => by
    obtain ⟨front, back, rfl, hf, hb⟩ := List.map_eq_append_iff.1 hu
    obtain ⟨o, front, rfl, ho, hsel⟩ := brackets_complete below h hf
    rw [List.append_assoc, List.cons_append]
    exact segments_brackets ho (hsel stop (back ++ rest)) (segments_complete below more hb hr)

omit [Pattern.Engine] in
theorem not_begins_of_ends {k : Kind} (h : k ∈ ends) : k ∉ [.doubleDot, .dot, .openBracket] := by
  rintro hk
  simp only [ends, List.mem_cons, List.not_mem_nil, or_false] at h hk
  rcases h with rfl | rfl | rfl | rfl <;> simp at hk

theorem test_present (below : CompleteBelow env inner n) {a : Anchor} {ks : List Kind}
    {path : List Segment} (h : Path env n ks path) (hu : used.map Token.kind = ks)
    (hr : peek rest ∈ ends) :
    ReadsOn (test env inner a stop (used ++ rest)) (.present (.mk a path)) rest := by
  obtain ⟨hl, he⟩ : ReadsOn (segments env inner stop (used ++ rest)) path rest :=
    segments_complete below h hu (not_begins_of_ends hr)
  refine ⟨hl, ?_⟩
  simp only [test, he, bind, Except.bind]
  simp only [ends, List.mem_cons, List.not_mem_nil, or_false] at hr
  rcases hr with hr | hr | hr | hr <;> simp only [hr] <;> rfl

theorem test_compare (below : CompleteBelow env inner n) {a : Anchor} {op : Comparison}
    {ks : List Kind} {path : List Segment} {v : Value} {o t : Token} (h : Path env n ks path)
    (hu : used.map Token.kind = ks) (ho : o.kind = .compare op) (ht : Literal t.kind v) :
    ReadsOn (test env inner a stop (used ++ o :: t :: rest)) (.compare (.mk a path) op v) rest := by
  obtain ⟨hl, he⟩ : ReadsOn (segments env inner stop (used ++ o :: t :: rest)) path
    (o :: t :: rest) := segments_complete below h hu (by simp [peek, ho])
  obtain ⟨hl', he'⟩ : Reads (literal stop (t :: rest)) v rest := literal_complete ht
  refine ⟨by simp; omega, ?_⟩
  simp only [test, he, bind, Except.bind, peek, ho, List.tail_cons, he']
  rfl

theorem test_resembles (below : CompleteBelow env inner n) {a : Anchor} {ks : List Kind}
    {path : List Segment} {raw flags : String} {pattern : Pattern} {o t : Token}
    (h : Path env n ks path) (hu : used.map Token.kind = ks) (ho : o.kind = .tilde)
    (ht : t.kind = .regex raw flags) (hp : Pattern.ofRaw raw flags = .ok pattern) :
    ReadsOn (test env inner a stop (used ++ o :: t :: rest)) (.resembles (.mk a path) pattern)
      rest := by
  obtain ⟨hl, he⟩ : ReadsOn (segments env inner stop (used ++ o :: t :: rest)) path
    (o :: t :: rest) := segments_complete below h hu (by simp [peek, ho])
  obtain ⟨hl', he'⟩ : Reads (regex stop (t :: rest)) pattern rest := regex_complete ht hp
  refine ⟨by simp; omega, ?_⟩
  simp only [test, he, bind, Except.bind, peek, ho, List.tail_cons, he']
  rfl
omit [Pattern.Engine] in

@[simp] theorem anchor?_place (a : Anchor) : anchor? (Grammar.place a) = some a := by
  cases a <;> rfl

theorem flipped_segments {a : Anchor} {op : Comparison} {path : List Segment} {v : Value}
    {first o t : Token} (ho : o.kind = .compare op) (ht : t.kind = Grammar.place a)
    (h : ReadsOn (segments env inner stop ts) path rest) :
    Reads (flipped env inner v first stop (o :: t :: ts)) (.compare (.mk a path) op.flip v)
      rest := by
  obtain ⟨hl, he⟩ := h
  refine ⟨by simp at hl ⊢; omega, ?_⟩
  simp only [flipped, ho, ht, anchor?_place, he, bind, Except.bind]
  rfl

theorem flipped_complete (below : CompleteBelow env inner n) {a : Anchor} {op : Comparison}
    {ks : List Kind} {path : List Segment} {v : Value} {first o t : Token}
    (h : Path env n ks path) (hu : used.map Token.kind = ks) (ho : o.kind = .compare op)
    (ht : t.kind = Grammar.place a) (hr : peek rest ∈ ends) :
    Reads (flipped env inner v first stop (o :: t :: (used ++ rest)))
      (.compare (.mk a path) op.flip v) rest :=
  flipped_segments ho ht (segments_complete below h hu (not_begins_of_ends hr))

theorem atom_test {a : Anchor} {t : Token} {p : Predicate} (ht : t.kind = Grammar.place a)
    (h : ReadsOn (test env inner a stop ts) p rest) :
    Reads (atom env inner stop (t :: ts)) p rest := by
  obtain ⟨hl, he⟩ := h
  refine ⟨by simp at hl ⊢; omega, ?_⟩
  cases a <;> simp only [Grammar.place] at ht <;>
    simp only [atom, ht, he, bind, Except.bind] <;> rfl

theorem atom_flipped {t : Token} {v : Value} {p : Predicate} (ht : Literal t.kind v)
    (h : Reads (flipped env inner v t stop ts) p rest) :
    Reads (atom env inner stop (t :: ts)) p rest := by
  obtain ⟨hl, he⟩ := h
  have hv := ofKind_of_literal ht
  refine ⟨by simp at hl ⊢; omega, ?_⟩
  generalize hk : t.kind = k at ht hv
  cases ht with
  | _ => simp only [atom, hk, hv, he, locate, bind, Except.bind]; rfl

theorem atom_paren {l : Level} {o c : Token} {p : Predicate} (ho : o.kind = .openParen)
    (h : Reads (l.disjunction stop ts) p (c :: rest)) (hc : c.kind = .closeParen) :
    Reads (atom env (some l) stop (o :: ts)) p rest := by
  obtain ⟨hl, he⟩ := h
  obtain ⟨hl', he'⟩ : Reads (expect .closeParen .expectedCloseParen stop (c :: rest)) () rest :=
    expect_complete hc
  refine ⟨by simp at hl ⊢; omega, ?_⟩
  simp only [atom, ho, nested, he, he', bind, Except.bind]
  rfl

theorem atom_not {l : Level} {o : Token} {p : Predicate} (ho : o.kind = .not)
    (h : Reads (l.atom stop ts) p rest) :
    Reads (atom env (some l) stop (o :: ts)) (.not p) rest := by
  obtain ⟨hl, he⟩ := h
  refine ⟨by simp at hl ⊢; omega, ?_⟩
  simp only [atom, ho, nested, he, bind, Except.bind]
  rfl

theorem atom_complete (below : CompleteBelow env inner n) {ks : List Kind} {p : Predicate}
    (h : Atom env n ks p) (hu : used.map Token.kind = ks) (hr : peek rest ∈ ends) :
    Reads (atom env inner stop (used ++ rest)) p rest := by
  cases h with
  | @paren m ks p h =>
    obtain ⟨l, rfl, complete⟩ := below m rfl
    obtain ⟨o, tail, rfl, ho, ht⟩ := List.map_eq_cons_iff.1 hu
    obtain ⟨inside, last, rfl, rfl, hl⟩ := List.map_eq_append_iff.1 ht
    obtain ⟨c, rfl, hc⟩ := List.map_eq_singleton_iff.1 hl
    rw [List.cons_append, List.append_assoc]
    exact atom_paren ho (complete.disjunction stop inside (c :: rest) p h (.inl hc)) hc
  | @not m ks p h =>
    obtain ⟨l, rfl, complete⟩ := below m rfl
    obtain ⟨o, tail, rfl, ho, rfl⟩ := List.map_eq_cons_iff.1 hu
    exact atom_not ho (complete.atom stop tail rest p h hr)
  | present a h =>
    obtain ⟨t, tail, rfl, ht, hp⟩ := List.map_eq_cons_iff.1 hu
    exact atom_test ht (test_present below h hp hr)
  | compare a op h hv =>
    obtain ⟨t, tail, rfl, ht, hp⟩ := List.map_eq_cons_iff.1 hu
    obtain ⟨front, back, rfl, hf, hb⟩ := List.map_eq_append_iff.1 hp
    obtain ⟨o, back, rfl, ho, hb⟩ := List.map_eq_cons_iff.1 hb
    obtain ⟨u, rfl, rfl⟩ := List.map_eq_singleton_iff.1 hb
    rw [List.cons_append, List.append_assoc]
    exact atom_test ht (test_compare below h hf ho hv)
  | resembles a h hc =>
    obtain ⟨t, tail, rfl, ht, hp⟩ := List.map_eq_cons_iff.1 hu
    obtain ⟨front, back, rfl, hf, hb⟩ := List.map_eq_append_iff.1 hp
    obtain ⟨o, back, rfl, ho, hb⟩ := List.map_eq_cons_iff.1 hb
    obtain ⟨u, rfl, hu'⟩ := List.map_eq_singleton_iff.1 hb
    rw [List.cons_append, List.append_assoc]
    exact atom_test ht (test_resembles below h hf ho hu' hc)
  | flipped a op hv h =>
    obtain ⟨t, tail, rfl, rfl, hp⟩ := List.map_eq_cons_iff.1 hu
    obtain ⟨o, tail, rfl, ho, hp⟩ := List.map_eq_cons_iff.1 hp
    obtain ⟨u, tail, rfl, hu', hp⟩ := List.map_eq_cons_iff.1 hp
    exact atom_flipped hv (flipped_complete below h hp ho hu' hr)

section
variable {operator : Kind} {connective : Connective} {operand : Parser Predicate}
  {Operand : List Kind → Predicate → Prop} {follow : List Kind}
  (complete : ∀ stop used rest p, Operand (used.map Token.kind) p → peek rest ∈ follow →
    Reads (operand stop (used ++ rest)) p rest)

theorem chain_stop {p : Predicate} (hr : peek rest ≠ operator) :
    ReadsOn (chain operator connective operand p stop rest) p rest := by
  refine ⟨by simp, ?_⟩
  cases rest with
  | nil => unfold chain; rfl
  | cons t rest =>
    unfold chain
    rw [if_neg (by simpa [peek] using hr)]

theorem chain_more {t : Token} {p q r : Predicate} {middle : List Token} (ht : t.kind = operator)
    (h : Reads (operand stop ts) q middle)
    (hm : ReadsOn (chain operator connective operand (.logical connective p q) stop middle) r
      rest) :
    ReadsOn (chain operator connective operand p stop (t :: ts)) r rest := by
  obtain ⟨hl, he⟩ := h
  obtain ⟨hl', he'⟩ := hm
  refine ⟨by simp at hl' ⊢; omega, ?_⟩
  unfold chain
  simp [ht, he, he', bind, Except.bind, pure, Except.pure]

theorem chained_reads {p q : Predicate} {middle : List Token} (h : Reads (operand stop ts) p middle)
    (hq : ReadsOn (chain operator connective operand p stop middle) q rest) :
    Reads (chained operator connective operand stop ts) q rest := by
  obtain ⟨hl, he⟩ := h
  obtain ⟨hl', he'⟩ := hq
  refine ⟨Nat.lt_of_le_of_lt hl' hl, ?_⟩
  simp [chained, he, he', bind, Except.bind, pure, Except.pure]

include complete in
/-- A chain that is derived is read, and the chain goes on from there. -/
theorem chained_goes_on (hop : operator ∈ follow) {ks : List Kind} {p q : Predicate}
    {left : List Token} (h : Chained operator connective Operand ks p)
    (hu : used.map Token.kind = ks) (hr : peek rest ∈ follow)
    (hq : ReadsOn (chain operator connective operand p stop rest) q left) :
    Reads (chained operator connective operand stop (used ++ rest)) q left := by
  induction h generalizing used rest with
  | one h =>
    subst hu
    exact chained_reads (complete stop used rest _ h hr) hq
  | more _ right ih =>
    obtain ⟨front, back, rfl, hf, hb⟩ := List.map_eq_append_iff.1 hu
    obtain ⟨t, back, rfl, ht, rfl⟩ := List.map_eq_cons_iff.1 hb
    rw [List.append_assoc, List.cons_append]
    have hback := complete stop back rest _ right hr
    exact ih hf (by simpa [peek, ht] using hop) (chain_more ht hback hq)

end

theorem conjunction_complete (below : CompleteBelow env inner n) {p : Predicate}
    (h : Conjunction env n (used.map Token.kind) p)
    (hr : peek rest ∈ [.or, .closeParen, .endOfQuery]) :
    Reads (conjunction env inner stop (used ++ rest)) p rest := by
  have hends : peek rest ∈ ends := List.mem_cons_of_mem _ hr
  have hand : peek rest ≠ .and := by
    intro hk
    simp [hk] at hr
  exact chained_goes_on (fun _ _ _ _ h hr => atom_complete below h rfl hr) (by simp [ends])
    (chained_of_conjunction h) rfl hends (chain_stop hand)

theorem disjunction_complete (below : CompleteBelow env inner n) {p : Predicate}
    (h : Disjunction env n (used.map Token.kind) p)
    (hr : peek rest = .closeParen ∨ peek rest = .endOfQuery) :
    Reads (disjunction env inner stop (used ++ rest)) p rest := by
  have hfollow : peek rest ∈ [.or, .closeParen, .endOfQuery] := by simp [hr]
  have hor : peek rest ≠ .or := by
    intro hk
    simp [hk] at hr
  exact chained_goes_on (fun _ _ _ _ h hr => conjunction_complete below h hr) (by simp)
    (chained_of_disjunction h) rfl hfollow (chain_stop hor)

theorem level_complete (env : Environment) (n : Nat) : CompleteBelow env (level env n) n := by
  induction n with
  | zero => simp [CompleteBelow]
  | succ n ih =>
    rintro m ⟨⟩
    exact ⟨_, rfl, fun _ _ _ _ h hr => disjunction_complete ih h hr,
      fun _ _ _ _ h hr => atom_complete ih h rfl hr⟩

end Parser

namespace Query
variable [Pattern.Engine] {env : Environment} {used rest : List Token} {q : Query}

theorem ofTokens_complete (h : Text env (used.map Token.kind) q)
    (hr : Parser.peek rest = .endOfQuery) : ofTokens env (used ++ rest) = .ok q := by
  generalize hu : used.map Token.kind = ks at h
  obtain ⟨hp⟩ := h
  obtain ⟨t, tail, rfl, ht, htail⟩ := List.map_eq_cons_iff.1 hu
  generalize hstop : Parser.stopOf (t :: tail ++ rest) = stop
  obtain ⟨hl, he⟩ : Parser.Reads (Parser.expect .root .expectedRoot stop (t :: (tail ++ rest))) ()
    (tail ++ rest) := Parser.expect_complete ht
  obtain ⟨hl', he'⟩ : Parser.ReadsOn (Parser.segments env (Parser.level env Parser.maxDepth) stop
    (tail ++ rest)) _ rest :=
    Parser.segments_complete (Parser.level_complete env _) hp htail (by simp [hr])
  rw [List.cons_append] at hstop ⊢
  simp only [ofTokens, hstop, he, he', bind, Except.bind, hr]
  rfl

end Query
end PathQuery
