import Mathlib.Data.List.Forall2
import PathQuery.Proofs.Query.Soundness

/-! Two runs of the parser. Of tokens it sees the kinds, of environments the functions that are
called: on tokens that are alike it takes the same course, and their places show only in errors. -/
namespace PathQuery
open Token SyntaxError

namespace Environment

/-- Both environments have the same function under this name, or none. -/
def Agree (env env' : Environment) (name : String) : Prop := env.get? name = env'.get? name

theorem Agree.resolve {env env' : Environment} {name : String} (h : env.Agree env' name)
    (args : List Value) : env.resolve name args = env'.resolve name args := by
  have hget : env.get? name = env'.get? name := h
  rw [Environment.resolve, Environment.resolve, hget]

end Environment

/-- The same failure at places that go together, or results as in `post`. -/
def Alike (R : Position → Position → Prop) {α β : Type} (post : α → β → Prop) :
    Except SyntaxError α → Except SyntaxError β → Prop
  | .ok a, .ok b => post a b
  | .error e, .error e' => e.cause = e'.cause ∧ R e.position e'.position
  | _, _ => False

namespace Alike
variable {R : Position → Position → Prop} {α β γ δ : Type} {post : α → β → Prop}
  {post' : γ → δ → Prop} {p p' : Position}

theorem bind {x : Except SyntaxError α} {y : Except SyntaxError β} {f : α → Except SyntaxError γ}
    {g : β → Except SyntaxError δ} (h : Alike R post x y)
    (hf : ∀ a b, post a b → Alike R post' (f a) (g b)) : Alike R post' (x >>= f) (y >>= g) := by
  cases x with
  | ok a =>
    cases y with
    | ok b => exact hf a b h
    | error e => exact h.elim
  | error e =>
    cases y with
    | ok b => exact h.elim
    | error e' => exact h

theorem pure {a : α} {b : β} (h : post a b) : Alike R post (Pure.pure a) (Pure.pure b) := h

theorem fail (h : R p p') (cause : Cause) :
    Alike R post (Parser.fail cause p) (Parser.fail cause p') := ⟨rfl, h⟩

theorem eq {x y : Except SyntaxError α} (h : Alike Eq Eq x y) : x = y := by
  cases x with
  | ok a =>
    cases y with
    | ok b => exact congrArg Except.ok h
    | error e => exact h.elim
  | error e =>
    cases y with
    | ok b => exact h.elim
    | error e' =>
      obtain ⟨cause, position⟩ := e
      obtain ⟨cause', position'⟩ := e'
      obtain ⟨rfl, rfl⟩ := h
      rfl

theorem locate (h : R p p') (x : Except Cause α) :
    Alike R Eq (Parser.locate p x) (Parser.locate p' x) := by
  cases x with
  | ok a => exact rfl
  | error cause => exact ⟨rfl, h⟩

end Alike

section
variable (env env' : Environment) (R : Position → Position → Prop)

/-- Tokens of one kind at places that go together; what they call is the same in both
environments. -/
structure Token.Alike (t t' : Token) : Prop where
  kind : t.kind = t'.kind
  position : R t.position t'.position
  calls : ∀ name, t.kind = .function name → env.Agree env' name

abbrev TokensAlike : List Token → List Token → Prop := List.Forall₂ (Token.Alike env env' R)

/-- The same value is taken, and the tokens that are left are alike. -/
def TakenAlike {α : Type} {ts ts' : List Token} (t : Taken α ts) (t' : Taken α ts') : Prop :=
  t.value = t'.value ∧ TokensAlike env env' R t.rest t'.rest

def LeftAlike {α : Type} {ts ts' : List Token} (r : Left α ts) (r' : Left α ts') :
    Prop :=
  r.1.1 = r'.1.1 ∧ TokensAlike env env' R r.1.2 r'.1.2

/-- The tokens inside a filter, the place of the bracket that closes it and the tokens behind it
go together. -/
structure CutAlike {ts ts' : List Token} (cut : Taken (List Token × Position) ts)
    (cut' : Taken (List Token × Position) ts') : Prop where
  body : TokensAlike env env' R cut.value.1 cut'.value.1
  closing : R cut.value.2 cut'.value.2
  rest : TokensAlike env env' R cut.rest cut'.rest

end

namespace TokensAlike
variable {env env' : Environment} {R : Position → Position → Prop} {ts ts' : List Token}
  {stop stop' : Position}

theorem tail (h : TokensAlike env env' R ts ts') : TokensAlike env env' R ts.tail ts'.tail := by
  cases h with
  | nil => exact .nil
  | cons _ h => exact h

theorem peek (h : TokensAlike env env' R ts ts') : Parser.peek ts = Parser.peek ts' := by
  cases h with
  | nil => rfl
  | cons ht _ => exact ht.kind

theorem place (hs : R stop stop') (h : TokensAlike env env' R ts ts') :
    R (Parser.place stop ts) (Parser.place stop' ts') := by
  cases h with
  | nil => exact hs
  | cons ht _ => exact ht.position

end TokensAlike

namespace Parser
variable {env env' : Environment} {R : Position → Position → Prop}
  {stop stop' : Position} {ts ts' : List Token}

theorem expect_alike {k : Kind} {cause : Kind → Cause} (hs : R stop stop')
    (h : TokensAlike env env' R ts ts') :
    Alike R (TakenAlike env env' R) (expect k cause stop ts) (expect k cause stop' ts') := by
  cases h with
  | nil => exact .fail hs _
  | cons ht h =>
    simp only [expect, ht.kind]
    split
    · exact ⟨rfl, h⟩
    · exact .fail ht.position _

theorem literal_alike (hs : R stop stop') (h : TokensAlike env env' R ts ts') :
    Alike R (TakenAlike env env' R) (literal stop ts) (literal stop' ts') := by
  cases h with
  | nil => exact .fail hs _
  | cons ht h =>
    simp only [literal, ht.kind]
    exact (Alike.locate ht.position _).bind fun _ _ hv => .pure ⟨hv, h⟩

theorem regex_alike [Pattern.Engine] (hs : R stop stop') (h : TokensAlike env env' R ts ts') :
    Alike R (TakenAlike env env' R) (regex stop ts) (regex stop' ts') := by
  cases h with
  | nil => exact .fail hs _
  | @cons t t' _ _ ht h =>
    cases hk : t'.kind with
    | regex raw flags =>
      simp only [regex, ht.kind, hk]
      exact (Alike.locate ht.position _).bind fun _ _ hp => .pure ⟨hp, h⟩
    | _ =>
      simp only [regex, ht.kind, hk]
      exact .fail ht.position _

/-! Bracketed selections -/

theorem sliceParts_alike (parts : List (Option Int64)) (h : TokensAlike env env' R ts ts') :
    Alike R (LeftAlike env env' R) (sliceParts parts ts) (sliceParts parts ts') := by
  induction h generalizing parts with
  | nil => exact ⟨rfl, .nil⟩
  | @cons t t' _ _ ht h ih =>
    unfold sliceParts
    cases hk : t'.kind with
    | closeBracket | comma | endOfQuery =>
      simp only [ht.kind, hk]
      exact ⟨rfl, .cons ht h⟩
    | colon =>
      simp only [ht.kind, hk]
      split
      · exact .fail ht.position _
      · exact (ih _).bind fun _ _ hr => .pure hr
    | int digits =>
      simp only [ht.kind, hk]
      refine (Alike.locate ht.position _).bind fun i _ hi => ?_
      subst hi
      split
      · exact (ih _).bind fun _ _ hr => .pure hr
      · exact .fail ht.position _
    | _ =>
      simp only [ht.kind, hk]
      exact .fail ht.position _

theorem sliceOrIndex_alike [Pattern.Engine] {first first' : Token}
    (hf : R first.position first'.position) (h : TokensAlike env env' R ts ts') :
    Alike R (LeftAlike env env' R) (sliceOrIndex first ts) (sliceOrIndex first' ts') := by
  refine (sliceParts_alike _ h).bind fun r r' hr => ?_
  obtain ⟨⟨parts, rest⟩, hl⟩ := r
  obtain ⟨⟨parts', rest'⟩, hl'⟩ := r'
  obtain ⟨rfl, hrest⟩ := hr
  exact (Alike.locate hf _).bind fun _ _ hs => .pure ⟨hs, hrest⟩

theorem names_alike (hs : R stop stop') (h : TokensAlike env env' R ts ts') :
    Alike R (TakenAlike env env' R) (names stop ts) (names stop' ts') := by
  fun_induction names stop ts generalizing ts' with
  | case1 =>
    cases h
    rw [names.eq_def stop' []]
    exact .fail hs _
  | case2 t rest quote raw hk ih =>
    obtain ⟨t', rest', ht, hrest, rfl⟩ := List.forall₂_cons_left_iff.1 h
    rw [names.eq_def stop' (t' :: rest')]
    simp only [← ht.kind, hk, ← TokensAlike.peek hrest]
    refine (Alike.locate ht.position _).bind fun name _ hn => ?_
    subst hn
    split
    · exact (ih (.tail hrest)).bind fun _ _ ho => .pure ⟨congrArg _ ho.1, ho.2⟩
    · exact .pure ⟨rfl, hrest⟩
  | case3 t rest hk =>
    obtain ⟨t', rest', ht, -, rfl⟩ := List.forall₂_cons_left_iff.1 h
    rw [names.eq_def stop' (t' :: rest')]
    dsimp only
    split
    next quote raw hk' => exact (hk quote raw (ht.kind.trans hk')).elim
    · rw [ht.kind]
      exact .fail ht.position _

theorem arguments_alike {callee callee' : Token} (hc : R callee.position callee'.position)
    (hs : R stop stop') (h : TokensAlike env env' R ts ts') :
    Alike R (TakenAlike env env' R) (arguments callee stop ts) (arguments callee' stop' ts') := by
  fun_induction arguments callee stop ts generalizing ts' with
  | case1 ts ih =>
    rw [arguments.eq_def callee' stop' ts']
    refine (literal_alike hs h).bind fun arg arg' harg => ?_
    obtain ⟨hv, hrest⟩ := harg
    simp only [← hrest.peek, ← hv]
    split
    · exact (ih arg hrest.tail).bind fun _ _ ho => .pure ⟨congrArg _ ho.1, ho.2⟩
    · exact .pure ⟨rfl, hrest.tail⟩
    · exact .fail hc _
    · exact .fail (hrest.place hs) _

theorem call_alike [Pattern.Engine] {callee callee' : Token} {name : String}
    (hn : env.Agree env' name) (hc : R callee.position callee'.position)
    (hs : R stop stop') (h : TokensAlike env env' R ts ts') :
    Alike R (TakenAlike env env' R) (call env callee name stop ts)
      (call env' callee' name stop' ts') := by
  refine (expect_alike hs h).bind fun opened opened' ho => ?_
  obtain ⟨-, ho⟩ := ho
  have called (args : Taken (List Value) ts) (args' : Taken (List Value) ts')
      (ha : TakenAlike env env' R args args') :
      Alike R (TakenAlike env env' R)
        (do
          let _ ← locate callee.position ((env.resolve name args.value).mapError .call)
          return args.map (Segment.function name))
        (do
          let _ ← locate callee'.position ((env'.resolve name args'.value).mapError .call)
          return args'.map (Segment.function name)) := by
    obtain ⟨hv, hrest⟩ := ha
    rw [← hv, ← hn.resolve]
    exact (Alike.locate hc _).bind fun _ _ _ => .pure ⟨congrArg _ hv, hrest⟩
  dsimp only
  rw [← ho.peek]
  split
  · exact called ⟨[], opened.rest.tail, _⟩ ⟨[], opened'.rest.tail, _⟩ ⟨rfl, ho.tail⟩
  · refine (arguments_alike hc hs ho).bind fun args args' ha => ?_
    exact called (args.after _) (args'.after _) ha

/-- Filters are cut off at the same bracket, if at all. -/
theorem untilClosed?_alike (depth : Nat) (h : TokensAlike env env' R ts ts') :
    Option.Rel (CutAlike env env' R) (untilClosed? depth ts) (untilClosed? depth ts') := by
  induction h generalizing depth with
  | nil => exact .none
  | @cons t t' rest rest' ht h ih =>
    have through (depth : Nat) :
        Option.Rel (CutAlike env env' R)
          ((untilClosed? depth rest).map fun r =>
            ((r.map fun cut => (t :: cut.1, cut.2)).after (by simp) :
              Taken _ (t :: rest)))
          ((untilClosed? depth rest').map fun r =>
            ((r.map fun cut => (t' :: cut.1, cut.2)).after (by simp) :
              Taken _ (t' :: rest'))) := by
      have hcut := ih depth
      generalize untilClosed? depth rest = cut at hcut ⊢
      generalize untilClosed? depth rest' = cut' at hcut ⊢
      cases hcut with
      | none => exact .none
      | some hcut => exact .some ⟨.cons ht hcut.body, hcut.closing, hcut.rest⟩
    unfold untilClosed?
    cases hk : t'.kind with
    | endOfQuery =>
      simp only [ht.kind, hk]
      exact .none
    | closeBracket =>
      simp only [ht.kind, hk]
      cases depth with
      | zero => exact .some ⟨.nil, ht.position, h⟩
      | succ depth => exact through depth
    | openBracket =>
      simp only [ht.kind, hk]
      exact through (depth + 1)
    | _ =>
      simp only [ht.kind, hk]
      exact through depth

/-! Levels -/

variable [Pattern.Engine] {inner inner' : Option Level}

/-- Levels that treat alike what is alike. -/
structure LevelAlike (env env' : Environment) (R : Position → Position → Prop) (l l' : Level) :
    Prop where
  disjunction : ∀ {stop stop' ts ts'}, R stop stop' → TokensAlike env env' R ts ts' →
    Alike R (TakenAlike env env' R) (l.disjunction stop ts) (l'.disjunction stop' ts')
  atom : ∀ {stop stop' ts ts'}, R stop stop' → TokensAlike env env' R ts ts' →
    Alike R (TakenAlike env env' R) (l.atom stop ts) (l'.atom stop' ts')

theorem whole_alike {p p' : Parser Predicate} (hs : R stop stop')
    (h : Alike R (TakenAlike env env' R) (p stop ts) (p' stop' ts')) :
    Alike R Eq (whole p stop ts) (whole p' stop' ts') := by
  refine h.bind fun t t' ht => ?_
  obtain ⟨hv, hrest⟩ := ht
  simp only [← hrest.peek, ← hv]
  split
  · exact .pure rfl
  · exact .fail (hrest.place hs) _

omit [Pattern.Engine] in
theorem close_alike {opened opened' : Token} (ho : R opened.position opened'.position)
    (hs : R stop stop') (h : TokensAlike env env' R ts ts') :
    Alike R (TakenAlike env env' R) (close opened stop ts) (close opened' stop' ts') := by
  simp only [close, ← h.peek]
  split
  · exact .fail ho _
  · exact expect_alike hs h

section
variable (below : Option.Rel (LevelAlike env env' R) inner inner')
include below

theorem nested_alike {p p' : Position} (hp : R p p') :
    Alike R (LevelAlike env env' R) (nested inner p) (nested inner' p') := by
  cases below with
  | none => exact .fail hp _
  | some hl => exact hl

theorem filter_alike {question question' : Token} (hq : R question.position question'.position)
    (h : TokensAlike env env' R ts ts') :
    Alike R (TakenAlike env env' R) (filter inner question ts) (filter inner' question' ts') := by
  have hcut := untilClosed?_alike 0 h
  unfold filter
  generalize untilClosed? 0 ts = cut at hcut ⊢
  generalize untilClosed? 0 ts' = cut' at hcut ⊢
  cases hcut with
  | none => exact .fail hq _
  | @some cut cut' hcut =>
    obtain ⟨⟨body, closing⟩, rest, _⟩ := cut
    obtain ⟨⟨body', closing'⟩, rest', _⟩ := cut'
    obtain ⟨hbody, hclosing, hrest⟩ := hcut
    have hempty : body.isEmpty = body'.isEmpty := by cases hbody <;> rfl
    dsimp only
    rw [← hempty]
    split
    · exact .fail hq _
    · refine (nested_alike below hq).bind fun level level' hl => ?_
      have hwhole := whole_alike hclosing (hl.disjunction hclosing hbody)
      exact hwhole.bind fun _ _ hp => .pure ⟨congrArg Segment.filter hp, hrest⟩

theorem brackets_alike {opened opened' : Token} (ho : R opened.position opened'.position)
    (hs : R stop stop') (h : TokensAlike env env' R ts ts') :
    Alike R (TakenAlike env env' R) (brackets env inner opened stop ts)
      (brackets env' inner' opened' stop' ts') := by
  cases h with
  | nil => exact .fail ho _
  | @cons t t' rest rest' ht h =>
    unfold brackets
    cases hk : t'.kind with
    | star =>
      simp only [ht.kind, hk]
      exact (close_alike ho hs h).bind fun _ _ hc => .pure ⟨rfl, hc.2⟩
    | int _ | colon =>
      simp only [ht.kind, hk]
      refine (sliceOrIndex_alike ht.position (.cons ht h)).bind fun r r' hr => ?_
      exact (close_alike ho hs hr.2).bind fun _ _ hc => .pure ⟨hr.1, hc.2⟩
    | string _ _ =>
      simp only [ht.kind, hk]
      refine (names_alike hs (.cons ht h)).bind fun found found' hf => ?_
      exact (close_alike ho hs hf.2).bind fun _ _ hc => .pure ⟨congrArg ofNames hf.1, hc.2⟩
    | function name =>
      simp only [ht.kind, hk]
      have hn := ht.calls name (ht.kind.trans hk)
      refine (call_alike hn ht.position hs h).bind fun segment segment' hc => ?_
      exact (close_alike ho hs hc.2).bind fun _ _ hc' => .pure ⟨hc.1, hc'.2⟩
    | question =>
      simp only [ht.kind, hk]
      exact (filter_alike below ht.position h).bind fun _ _ hf => .pure hf
    | closeBracket | endOfQuery =>
      simp only [ht.kind, hk]
      exact .fail ho _
    | _ =>
      simp only [ht.kind, hk]
      exact .fail ht.position _

/-! Paths -/

theorem descendant_alike (hs : R stop stop') (h : TokensAlike env env' R ts ts') :
    Alike R (TakenAlike env env' R) (descendant env inner stop ts)
      (descendant env' inner' stop' ts') := by
  cases h with
  | nil => exact .fail hs _
  | @cons t t' rest rest' ht h =>
    unfold descendant
    cases hk : t'.kind with
    | openBracket =>
      simp only [ht.kind, hk]
      exact (brackets_alike below ht.position hs h).bind fun _ _ hb => .pure hb
    | name _ | star =>
      simp only [ht.kind, hk]
      exact .pure ⟨rfl, h⟩
    | _ =>
      simp only [ht.kind, hk]
      exact .fail ht.position _

omit below in
theorem shorthand_alike (hs : R stop stop') (h : TokensAlike env env' R ts ts') :
    Alike R (TakenAlike env env' R) (shorthand env stop ts) (shorthand env' stop' ts') := by
  cases h with
  | nil => exact .fail hs _
  | @cons t t' rest rest' ht h =>
    unfold shorthand
    cases hk : t'.kind with
    | function name =>
      simp only [ht.kind, hk]
      have hn := ht.calls name (ht.kind.trans hk)
      exact (call_alike hn ht.position hs h).bind fun _ _ hc => .pure hc
    | name _ | star =>
      simp only [ht.kind, hk]
      exact .pure ⟨rfl, h⟩
    | _ =>
      simp only [ht.kind, hk]
      exact .fail ht.position _

/-- What one segment and then those behind it give. -/
theorem segments_alike (hs : R stop stop') (h : TokensAlike env env' R ts ts') :
    Alike R (LeftAlike env env' R) (segments env inner stop ts)
      (segments env' inner' stop' ts') := by
  fun_induction segments env inner stop ts generalizing ts' with
  | case1 =>
    cases h
    rw [segments.eq_def env' inner' stop' []]
    exact ⟨rfl, .nil⟩
  | case2 t rest hk ih =>
    obtain ⟨t', rest', ht, hrest, rfl⟩ := List.forall₂_cons_left_iff.1 h
    rw [segments.eq_def env' inner' stop' (t' :: rest')]
    simp only [← ht.kind, hk]
    refine (descendant_alike below hs hrest).bind fun s s' hd => ?_
    exact (ih s hd.2).bind fun _ _ hr => .pure ⟨by rw [hd.1, hr.1], hr.2⟩
  | case3 t rest hk ih =>
    obtain ⟨t', rest', ht, hrest, rfl⟩ := List.forall₂_cons_left_iff.1 h
    rw [segments.eq_def env' inner' stop' (t' :: rest')]
    simp only [← ht.kind, hk]
    refine (shorthand_alike hs hrest).bind fun s s' hd => ?_
    exact (ih s hd.2).bind fun _ _ hr => .pure ⟨by rw [hd.1, hr.1], hr.2⟩
  | case4 t rest hk ih =>
    obtain ⟨t', rest', ht, hrest, rfl⟩ := List.forall₂_cons_left_iff.1 h
    rw [segments.eq_def env' inner' stop' (t' :: rest')]
    simp only [← ht.kind, hk]
    refine (brackets_alike below ht.position hs hrest).bind fun s s' hd => ?_
    exact (ih s hd.2).bind fun _ _ hr => .pure ⟨by rw [hd.1, hr.1], hr.2⟩
  | case5 t rest hdd hd hb =>
    obtain ⟨t', rest', ht, hrest, rfl⟩ := List.forall₂_cons_left_iff.1 h
    rw [segments.eq_def env' inner' stop' (t' :: rest')]
    simp only [← ht.kind]
    exact ⟨rfl, .cons ht hrest⟩

/-! Predicates -/

theorem test_alike (a : Anchor) (hs : R stop stop') (h : TokensAlike env env' R ts ts') :
    Alike R (LeftAlike env env' R) (test env inner a stop ts) (test env' inner' a stop' ts') := by
  refine (segments_alike below hs h).bind fun r r' hr => ?_
  obtain ⟨⟨found, left⟩, hl⟩ := r
  obtain ⟨⟨found', left'⟩, hl'⟩ := r'
  obtain ⟨hfound, (hleft : TokensAlike env env' R left left')⟩ := hr
  cases hfound
  dsimp only
  rw [← hleft.peek]
  split
  next op _ =>
    refine (literal_alike hs hleft.tail).bind fun v v' hv => ?_
    exact .pure ⟨by rw [hv.1], hv.2⟩
  · refine (regex_alike hs hleft.tail).bind fun p p' hp => ?_
    exact .pure ⟨by rw [hp.1], hp.2⟩
  · exact .pure ⟨rfl, hleft⟩

theorem flipped_alike (v : Value) {first first' : Token}
    (hf : R first.position first'.position) (hs : R stop stop')
    (h : TokensAlike env env' R ts ts') :
    Alike R (TakenAlike env env' R) (flipped env inner v first stop ts)
      (flipped env' inner' v first' stop' ts') := by
  cases h with
  | nil => exact .fail hf _
  | @cons t t' rest rest' ht h =>
    unfold flipped
    cases hk : t'.kind with
    | compare op =>
      simp only [ht.kind, hk]
      cases h with
      | nil => exact .fail hs _
      | @cons u u' after after' hu hafter =>
        simp only [hu.kind]
        split
        next a ha =>
          refine (segments_alike below hs hafter).bind fun r r' hr => ?_
          exact .pure ⟨by rw [hr.1], hr.2⟩
        · exact .fail hu.position _
    | _ =>
      simp only [ht.kind, hk]
      exact .fail hf _

theorem atom_alike (hs : R stop stop') (h : TokensAlike env env' R ts ts') :
    Alike R (TakenAlike env env' R) (atom env inner stop ts) (atom env' inner' stop' ts') := by
  cases h with
  | nil => exact .fail hs _
  | @cons t t' rest rest' ht h =>
    unfold atom
    cases hk : t'.kind with
    | openParen =>
      simp only [ht.kind, hk]
      refine (nested_alike below ht.position).bind fun level level' hl => ?_
      refine (hl.disjunction hs h).bind fun p p' hp => ?_
      exact (expect_alike hs hp.2).bind fun _ _ hc => .pure ⟨hp.1, hc.2⟩
    | not =>
      simp only [ht.kind, hk]
      refine (nested_alike below ht.position).bind fun level level' hl => ?_
      exact (hl.atom hs h).bind fun _ _ hp => .pure ⟨congrArg Predicate.not hp.1, hp.2⟩
    | current =>
      simp only [ht.kind, hk]
      exact (test_alike below .current hs h).bind fun _ _ hr => .pure hr
    | root =>
      simp only [ht.kind, hk]
      exact (test_alike below .root hs h).bind fun _ _ hr => .pure hr
    | string _ _ | int _ | float _ | «true» | «false» | null =>
      simp only [ht.kind, hk]
      refine (Alike.locate ht.position _).bind fun v v' hv => ?_
      subst hv
      exact (flipped_alike below v ht.position hs h).bind fun _ _ hp => .pure hp
    | _ =>
      simp only [ht.kind, hk]
      exact .fail ht.position _

end

section
variable {operator : Kind} {connective : Connective} {operand operand' : Parser Predicate}
  (ho : ∀ {ts ts'}, TokensAlike env env' R ts ts' →
    Alike R (TakenAlike env env' R) (operand stop ts) (operand' stop' ts'))
include ho

theorem chain_alike (left : Predicate) (h : TokensAlike env env' R ts ts') :
    Alike R (LeftAlike env env' R) (chain operator connective operand left stop ts)
      (chain operator connective operand' left stop' ts') := by
  fun_induction chain operator connective operand left stop ts generalizing ts' with
  | case1 =>
    cases h
    rw [chain.eq_def operator connective operand' _ stop' []]
    exact ⟨rfl, .nil⟩
  | case2 left t rest hk ih =>
    obtain ⟨t', rest', ht, hrest, rfl⟩ := List.forall₂_cons_left_iff.1 h
    rw [chain.eq_def operator connective operand' left stop' (t' :: rest')]
    simp only [← ht.kind, hk]
    refine (ho hrest).bind fun right right' hr => ?_
    rw [← hr.1]
    exact (ih right hr.2).bind fun _ _ hm => .pure hm
  | case3 left t rest hk =>
    obtain ⟨t', rest', ht, hrest, rfl⟩ := List.forall₂_cons_left_iff.1 h
    rw [chain.eq_def operator connective operand' left stop' (t' :: rest')]
    simp only [← ht.kind, hk]
    exact ⟨rfl, .cons ht hrest⟩

theorem chained_alike (h : TokensAlike env env' R ts ts') :
    Alike R (TakenAlike env env' R) (chained operator connective operand stop ts)
      (chained operator connective operand' stop' ts') := by
  refine (ho h).bind fun first first' hf => ?_
  rw [← hf.1]
  exact (chain_alike ho first.value hf.2).bind fun _ _ hr => .pure hr

end

theorem conjunction_alike (below : Option.Rel (LevelAlike env env' R) inner inner')
    (hs : R stop stop') (h : TokensAlike env env' R ts ts') :
    Alike R (TakenAlike env env' R) (conjunction env inner stop ts)
      (conjunction env' inner' stop' ts') :=
  chained_alike (fun h => atom_alike below hs h) h

theorem disjunction_alike (below : Option.Rel (LevelAlike env env' R) inner inner')
    (hs : R stop stop') (h : TokensAlike env env' R ts ts') :
    Alike R (TakenAlike env env' R) (disjunction env inner stop ts)
      (disjunction env' inner' stop' ts') :=
  chained_alike (fun h => conjunction_alike below hs h) h

theorem level_alike (n : Nat) :
    Option.Rel (LevelAlike env env' R) (level env n) (level env' n) := by
  induction n with
  | zero => exact .none
  | succ n ih =>
    exact .some ⟨fun hs h => disjunction_alike ih hs h, fun hs h => atom_alike ih hs h⟩

end Parser

/-- Tokens that are alike make the same query, or the same failure. -/
theorem Query.ofTokens_alike [Pattern.Engine] {env env' : Environment}
    {R : Position → Position → Prop}
    {ts ts' : List Token} (hs : R (Parser.stopOf ts) (Parser.stopOf ts'))
    (h : TokensAlike env env' R ts ts') :
    Alike R Eq (ofTokens env ts) (ofTokens env' ts') := by
  refine (Parser.expect_alike hs h).bind fun root root' hr => ?_
  refine (Parser.segments_alike (Parser.level_alike _) hs hr.2).bind fun r r' hr => ?_
  obtain ⟨⟨segments, left⟩, hl⟩ := r
  obtain ⟨⟨segments', left'⟩, hl'⟩ := r'
  obtain ⟨hsegments, (hleft : TokensAlike env env' R left left')⟩ := hr
  cases hsegments
  dsimp only
  rw [← hleft.peek]
  split
  · exact .pure rfl
  · exact .fail (hleft.place hs) _

end PathQuery
