import PathQuery.Proofs.Query.Course
import PathQuery.Proofs.Token.Steps

/-! The brackets of a text, counted. At every step of the lexer one is open for each filter, and one
more in a selection without a filter; where no token is invalid, all are closed in the end. -/
namespace PathQuery
open Token

def bracketsOpened (ts : List Token) : Nat := ts.countP fun t => t.kind = .openBracket

def bracketsClosed (ts : List Token) : Nat := ts.countP fun t => t.kind = .closeBracket

section
variable (t : Token) (ts : List Token)

@[simp] theorem bracketsOpened_cons : bracketsOpened (t :: ts) =
    bracketsOpened ts + if t.kind = .openBracket then 1 else 0 := by
  simp [bracketsOpened, List.countP_cons]

@[simp] theorem bracketsClosed_cons : bracketsClosed (t :: ts) =
    bracketsClosed ts + if t.kind = .closeBracket then 1 else 0 := by
  simp [bracketsClosed, List.countP_cons]

end

namespace Place
variable {p q : Place} {filters filters' : Nat} {k : Kind}

theorem after?_endOfQuery (h : p.after? filters .endOfQuery = some (q, filters')) :
    p = path ∧ filters = 0 ∧ q = ended ∧ filters' = 0 := by
  cases p with
  | path =>
    cases filters with
    | zero =>
      cases h
      exact ⟨rfl, rfl, rfl, rfl⟩
    | succ outer => cases h
  | _ => cases h

theorem after?_question (h : p.after? filters .question = some (q, filters')) : p = brackets := by
  cases p with
  | brackets => rfl
  | path => cases filters <;> cases h
  | _ => cases h

/-- What a token opens is open behind it, and what it closes was open before. -/
theorem openBrackets_add (h : p.after? filters k = some (q, filters')) :
    p.openBrackets filters + (if k = .openBracket then 1 else 0) =
      q.openBrackets filters' + if k = .closeBracket then 1 else 0 := by
  rcases openBrackets_after? h with
    ⟨rfl, -⟩ | ⟨rfl, -, ho⟩ | ⟨rfl, -, rfl, ho⟩ | ⟨hk, -, ho⟩
  · obtain ⟨rfl, rfl, rfl, rfl⟩ := after?_endOfQuery h
    rfl
  · simp [ho]
  · exact ho
  · have hopen : k ≠ .openBracket := by
      rintro rfl
      cases hk
    have hclose : k ≠ .closeBracket := by
      rintro rfl
      cases hk
    simp [ho, hopen, hclose]

end Place

/-- Behind the front of a course stands its back, and the brackets that are open there are those
that the front has opened and not closed. -/
theorem Course.split {base filters : Nat} {p : Place} {front back : List Token}
    (h : Course base p filters (front ++ back)) :
    ∃ q filters', Course base q filters' back ∧
      p.openBrackets filters + bracketsOpened front =
        q.openBrackets filters' + bracketsClosed front := by
  induction front generalizing p filters with
  | nil => exact ⟨p, filters, h, rfl⟩
  | cons t front ih =>
    cases h with
    | step hl ha hb h =>
      obtain ⟨q, filters', hback, hfront⟩ := ih h
      have htoken := Place.openBrackets_add ha
      refine ⟨q, filters', hback, ?_⟩
      simp only [bracketsOpened_cons, bracketsClosed_cons]
      omega

/-- At the end of a whole query no bracket is open. -/
theorem Course.openBrackets_nil {p : Place} {filters : Nat} (h : Course 0 p filters []) :
    p.openBrackets filters = 0 := by
  cases h with
  | ended => rfl
  | cut hbase => exact absurd rfl hbase

namespace Lexer

theorem Stands.openBrackets {parens : List Nat} {text : List Char} {mode : Mode} {p : Place}
    (h : Stands parens text mode p) (filters : Nat) :
    p.openBrackets filters = filters + if mode = .brackets then 1 else 0 := by
  cases h <;> rfl

theorem Stands.ne_failed {parens : List Nat} {text : List Char} {mode : Mode} {p : Place}
    (h : Stands parens text mode p) : mode ≠ .failed := by
  rintro rfl
  cases h

namespace Machine
variable {m : Machine} {p : Place}

/-- Every open bracket belongs to an open filter, except for the one of a selection without a
filter, which is there in one mode. -/
def Accounts (m : Machine) (mode : Mode) : Prop :=
  bracketsOpened m.tokens =
    bracketsClosed m.tokens + m.parens.length + if mode = .brackets then 1 else 0

/-- A step accounts for the brackets: in the mode that it goes to, or in that in which it fails. -/
theorem step_accounts (h : m.Stands p) (hf : m.mode.isFinal = false) (hm : m.Accounts m.mode) :
    m.step.mode = .failed ∧ m.step.Accounts m.mode ∨
      (∃ q, m.step.Stands q) ∧ m.step.Accounts m.step.mode := by
  have ha := h.action_follows hf
  -- The place says how many brackets are open, before the step and behind it.
  have hp := Lexer.Stands.openBrackets h m.parens.length
  rw [step_eq_obey hf]
  unfold Accounts at hm
  generalize haction : m.mode.action m.parens m.cursor.skipBlank.position
    m.cursor.skipBlank.rest = action at ha
  cases action with
  | emit kind length next parens =>
    obtain ⟨-, -, q, hafter, hs⟩ := ha
    have htoken := Place.openBrackets_add hafter
    have hq := hs.openBrackets parens.length
    refine .inr ⟨⟨q, ?_⟩, ?_⟩
    · unfold Stands
      rwa [← Cursor.rest_advance] at hs
    · show bracketsOpened (_ :: m.tokens) = bracketsClosed (_ :: m.tokens) + parens.length +
        if next = .brackets then 1 else 0
      simp only [bracketsOpened_cons, bracketsClosed_cons, Cursor.token]
      omega
  | handOver next =>
    have hq := Lexer.Stands.openBrackets ha m.parens.length
    refine .inr ⟨⟨p, ha⟩, ?_⟩
    show bracketsOpened m.tokens = bracketsClosed m.tokens + m.parens.length +
      if next = .brackets then 1 else 0
    omega
  | fail cause length =>
    refine .inl ⟨rfl, ?_⟩
    simpa [Accounts, obey, Cursor.token] using hm

end Machine

/-- The mode of the lexer after so many steps or, where it has failed, the mode in which it did. -/
def modeAfter (text : String) : Nat → Mode
  | 0 => .root
  | n + 1 =>
    if (after text (n + 1)).mode = .failed then modeAfter text n else (after text (n + 1)).mode

/-- However far the lexer has come, its brackets are accounted for; and it stands somewhere, unless
it has failed. -/
theorem run_accounts (text : String) (n : Nat) :
    ((start text).run n).Accounts (modeAfter text n) ∧
      (((start text).run n).mode ≠ .failed →
        modeAfter text n = ((start text).run n).mode ∧ ∃ p, ((start text).run n).Stands p) := by
  induction n with
  | zero => exact ⟨rfl, fun _ => ⟨rfl, .start, .start⟩⟩
  | succ n ih =>
    obtain ⟨hm, hworks⟩ := ih
    have hmode : (after text (n + 1)).mode = ((start text).run n).step.mode := by
      rw [mode_after, Machine.run_succ_eq_step]
    rw [Machine.run_succ_eq_step, modeAfter, hmode]
    by_cases hfailed : ((start text).run n).mode = .failed
    · have hstep : ((start text).run n).step = (start text).run n := if_pos (by rw [hfailed]; rfl)
      rw [hstep, if_pos hfailed]
      exact ⟨hm, fun hne => absurd hfailed hne⟩
    · obtain ⟨hsame, p, hp⟩ := hworks hfailed
      cases hf : ((start text).run n).mode.isFinal with
      | true =>
        have hstep : ((start text).run n).step = (start text).run n := if_pos hf
        rw [hstep, if_neg hfailed]
        exact ⟨hsame ▸ hm, fun _ => ⟨rfl, p, hp⟩⟩
      | false =>
        rw [hsame] at hm ⊢
        rcases Machine.step_accounts hp hf hm with ⟨hfails, ha⟩ | ⟨⟨q, hq⟩, ha⟩
        · rw [if_pos hfails]
          exact ⟨ha, fun hne => absurd hfails hne⟩
        · rw [if_neg hq.ne_failed]
          exact ⟨ha, fun _ => ⟨rfl, q, hq⟩⟩

/-- Where no token is invalid, the brackets balance, and a filter stands within an open one. In any
text, and at every step, the open brackets are those of the open filters and, within a selection
that is none, one more. -/
theorem brackets_balance (text : String) :
    (∀ ts, lex text = .ok ts →
      (∀ front back, ts = front ++ back → bracketsClosed front ≤ bracketsOpened front) ∧
      bracketsOpened ts = bracketsClosed ts ∧
      ∀ front t back, ts = front ++ t :: back → t.kind = .question →
        bracketsClosed front < bracketsOpened front) ∧
    ∀ n, bracketsOpened (after text n).tokens =
      bracketsClosed (after text n).tokens + (after text n).parens.length +
        if modeAfter text n = .brackets then 1 else 0 := by
  constructor
  · intro ts hlex
    have hcourse := course_of_lex hlex
    have hstart : Place.start.openBrackets 0 = 0 := rfl
    refine ⟨?_, ?_, ?_⟩
    · rintro front back rfl
      obtain ⟨q, filters, -, hfront⟩ := hcourse.split
      omega
    · have hwhole : Course 0 .start 0 (ts ++ []) := by rwa [List.append_nil]
      obtain ⟨q, filters, hend, hall⟩ := hwhole.split
      have hclosed := hend.openBrackets_nil
      omega
    · rintro front t back rfl ht
      obtain ⟨q, filters, hback, hfront⟩ := hcourse.split
      cases hback with
      | step hl ha hb h =>
        obtain rfl := Place.after?_question (ht ▸ ha)
        have hopen : Place.brackets.openBrackets filters = filters + 1 := rfl
        omega
  · intro n
    rw [tokens_after, parens_after]
    exact (run_accounts text n).1

/-- Within an index of a path in a filter, two brackets are open for one filter. -/
theorem brackets_balance_nested :
    (∃ ts, lex "$[?@[0]]" = .ok ts ∧ bracketsOpened ts = bracketsClosed ts) ∧
    modeAfter "$[?@[0]]" 6 = .brackets ∧ (after "$[?@[0]]" 6).parens.length = 1 ∧
    bracketsOpened (after "$[?@[0]]" 6).tokens =
      bracketsClosed (after "$[?@[0]]" 6).tokens + 2 := by
  obtain ⟨hbalance, hopen⟩ := brackets_balance "$[?@[0]]"
  have hlex : ∃ ts, lex "$[?@[0]]" = .ok ts := ⟨_, rfl⟩
  have hmode : modeAfter "$[?@[0]]" 6 = .brackets := by decide
  have hparens : (after "$[?@[0]]" 6).parens.length = 1 := by decide
  have hnested := hopen 6
  rw [hmode, hparens, if_pos rfl] at hnested
  obtain ⟨ts, hts⟩ := hlex
  exact ⟨⟨ts, hts, (hbalance ts hts).2.1⟩, hmode, hparens, hnested⟩

/-- A failed lexer leaves the bracket open in which it failed. -/
example : (after "$[0" 4).mode = .failed ∧ modeAfter "$[0" 4 = .brackets ∧
    bracketsOpened (after "$[0" 4).tokens = 1 := by decide

end Lexer

end PathQuery
