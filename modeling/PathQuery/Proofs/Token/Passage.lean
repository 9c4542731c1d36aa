import Mathlib.Logic.Relation
import PathQuery.Proofs.Token.Border

/-! Passing through a text: which words the lexer makes of it on the way from a place to its end,
wherever that place is. -/
namespace PathQuery
open Token

/-- What a token says, without its place. -/
def Token.word (t : Token) : Kind × String := (t.kind, t.lexeme)

namespace Lexer
open Scan

/-- Where nothing is dropped in front of `front`, whatever follows it. -/
theorem dropWhile_front {p : Char → Bool} {front rest tail : List Char} (hne : front ≠ [])
    (h : (front ++ tail).dropWhile p = front ++ rest) :
    tail = rest ∧ ∀ tail', (front ++ tail').dropWhile p = front ++ tail' := by
  obtain ⟨c, front, rfl⟩ := List.exists_cons_of_ne_nil hne
  have hc := List.head?_dropWhile_not p (c :: front ++ tail)
  rw [h] at hc
  have hp : p c = false := hc
  have hkeep (tail : List Char) : (c :: front ++ tail).dropWhile p = c :: front ++ tail := by
    simp [hp]
  rw [hkeep] at h
  exact ⟨List.append_cancel_left h, hkeep⟩

/-- The words that the lexer makes from a spot on, up to the end of the query. -/
inductive Passes : Spot → List (Kind × String) → Prop where
  | done {parens : List Nat} {text : List Char} : Passes ⟨.done, parens, text⟩ []
  | token {mode next : Mode} {parens parens' : List Nat} {text : List Char} {kind : Kind}
      {length : Nat} {words : List (Kind × String)} (hf : mode.isFinal = false)
      (h : ∀ here,
        mode.action parens here (text.dropWhile isBlank) = .emit kind length next parens')
      (rest : Passes ⟨next, parens', (text.dropWhile isBlank).drop length⟩ words) :
      Passes ⟨mode, parens, text⟩ ((kind, lexeme (text.dropWhile isBlank) length) :: words)
  | handOver {mode next : Mode} {parens : List Nat} {text : List Char}
      {words : List (Kind × String)} (hf : mode.isFinal = false)
      (h : ∀ here, mode.action parens here (text.dropWhile isBlank) = .handOver next)
      (rest : Passes ⟨next, parens, text⟩ words) : Passes ⟨mode, parens, text⟩ words

section
variable {mode : Mode} {parens : List Nat} {text text' : List Char} {s : Spot}
  {words : List (Kind × String)}

/-- Blanks in front do not count. -/
theorem Passes.blanks (h : Passes ⟨mode, parens, text⟩ words)
    (heq : text'.dropWhile isBlank = text.dropWhile isBlank) :
    Passes ⟨mode, parens, text'⟩ words := by
  generalize hs : Spot.mk mode parens text = s at h
  induction h generalizing mode with
  | done =>
    cases hs
    exact .done
  | token hf ha rest =>
    cases hs
    rw [← heq] at ha rest ⊢
    exact .token hf ha rest
  | handOver hf ha rest ih =>
    cases hs
    rw [← heq] at ha
    exact .handOver hf ha (ih rfl)

theorem Passes.nul_notMem (h : Passes s words) (h0 : '\x00' ∉ s.text) :
    ∀ w ∈ words, '\x00' ∉ w.2.toList := by
  induction h with
  | done => simp
  | token hf ha rest ih =>
    have htext := fun hm => h0 ((List.dropWhile_sublist isBlank).mem hm)
    refine List.forall_mem_cons.2 ⟨?_, ih fun hm => htext (List.mem_of_mem_drop hm)⟩
    rw [lexeme, String.toList_ofList]
    exact fun hm => htext (List.mem_of_mem_take hm)
  | handOver hf ha rest ih => exact ih h0

/-- At the end of the query nothing follows. -/
theorem Passes.of_done {parens : List Nat} (h : Passes ⟨.done, parens, text⟩ words) :
    words = [] := by
  cases h with
  | done => rfl
  | token hf => simp [Mode.isFinal] at hf
  | handOver hf => simp [Mode.isFinal] at hf

/-! Passing one word -/

/-- Blanks, or nothing at all. -/
def Blanks (gap : List Char) : Prop := ∀ c ∈ gap, isBlank c = true

instance (gap : List Char) : Decidable (Blanks gap) :=
  decidable_of_iff (gap.all isBlank = true) List.all_eq_true

theorem Blanks.dropWhile {gap : List Char} (h : Blanks gap) (rest : List Char) :
    (gap ++ rest).dropWhile isBlank = rest.dropWhile isBlank :=
  List.dropWhile_append_of_pos h

theorem Blanks.nul_notMem {gap : List Char} (h : Blanks gap) : '\x00' ∉ gap := by
  intro h0
  exact absurd (h _ h0) (by decide)

/-- Without making a token of the text, a mode leaves it to another one. -/
def HandsOver (parens : List Nat) (text : List Char) (mode next : Mode) : Prop :=
  mode.isFinal = false ∧
    ∀ here, mode.action parens here (text.dropWhile isBlank) = .handOver next

/-- A mode makes a token of a word, in front of whatever may border it in the place of `rest`. -/
structure Reads (mode : Mode) (parens : List Nat) (kind : Kind) (lexeme : String)
    (rest : List Char) (next : Mode) (parens' : List Nat) : Prop where
  not_final : mode.isFinal = false
  no_blank : ∀ rest', (lexeme.toList ++ rest').dropWhile isBlank = lexeme.toList ++ rest'
  action : ∀ rest', Borders kind rest rest' → ∀ here,
    mode.action parens here (lexeme.toList ++ rest') =
      .emit kind lexeme.toList.length next parens'

section
variable {parens parens' : List Nat} {kind : Kind} {lexeme : String} {gap rest rest' : List Char}
  {mode' next : Mode}

/-- Within a filter, what begins a segment is handed over to where segments are read, and anything
else back to where predicates are. -/
theorem HandsOver.modes (h : HandsOver parens text mode next) :
    mode = .segment ∧ next = .filter ∧ opensSegment (text.dropWhile isBlank) = false ∧
        parens ≠ [] ∨
      mode = .filter ∧ next = .segment ∧ opensSegment (text.dropWhile isBlank) = true := by
  have ha := h.2 {}
  generalize text.dropWhile isBlank = text at ha
  have sound {a : Action} (hs : a.Sound mode text) (ha : a = .handOver next) :
      mode = .segment ∧ next = .filter ∧ opensSegment text = false ∨
        mode = .filter ∧ next = .segment ∧ opensSegment text = true := by
    subst ha
    exact hs
  cases mode with
  | root => simpa using sound rootAction_sound ha
  | descendant => simpa using sound descendantAction_sound ha
  | shorthand => simpa using sound shorthandAction_sound ha
  | brackets => simpa using sound bracketsAction_sound ha
  | arguments => simpa using sound argumentsAction_sound ha
  | filter => exact .inr (by simpa using sound filterAction_sound ha)
  | segment =>
    have hseg : segmentAction parens text = .handOver next := ha
    unfold segmentAction at hseg
    split at hseg
    case h_4 hdot hbracket =>
      split at hseg
      next hp =>
        cases hseg
        exact .inl ⟨rfl, rfl, opensSegment_eq_false hdot hbracket, hp⟩
      · split at hseg <;> cases hseg
    all_goals cases hseg
  | regex =>
    have hregex : regexAction parens {} text = .handOver next := ha
    unfold regexAction regexToken ofResult at hregex
    split at hregex
    · split at hregex <;> cases hregex
    · cases hregex
  | done => exact absurd h.1 (by simp [Mode.isFinal])
  | failed => exact absurd h.1 (by simp [Mode.isFinal])

/-- All that counts is whether a segment begins. -/
theorem HandsOver.congr (h : HandsOver parens text mode next)
    (ho : opensSegment (text'.dropWhile isBlank) = opensSegment (text.dropWhile isBlank)) :
    HandsOver parens text' mode next := by
  refine ⟨h.1, fun here => ?_⟩
  rcases h.modes with ⟨rfl, rfl, hopens, hp⟩ | ⟨rfl, rfl, hopens⟩
  · exact segmentAction_handOver (ho.trans hopens) hp
  · rw [hopens] at ho
    generalize text'.dropWhile isBlank = text' at ho
    simp only [opensSegment, Bool.or_eq_true, decide_eq_true_eq] at ho
    rcases ho with ho | ho <;> obtain ⟨more, rfl⟩ := List.head?_eq_some_iff.1 ho <;> rfl

theorem HandsOver.chain_congr (h : Relation.ReflTransGen (HandsOver parens text) mode mode')
    (ho : opensSegment (text'.dropWhile isBlank) = opensSegment (text.dropWhile isBlank)) :
    Relation.ReflTransGen (HandsOver parens text') mode mode' :=
  h.lift id fun _ _ h => h.congr ho

theorem Passes.of_handsOver (h : Relation.ReflTransGen (HandsOver parens text) mode mode')
    (hp : Passes ⟨mode', parens, text⟩ words) : Passes ⟨mode, parens, text⟩ words := by
  induction h using Relation.ReflTransGen.head_induction_on with
  | refl => exact hp
  | head h _ ih => exact .handOver h.1 h.2 ih

theorem Reads.passes (h : Reads mode parens kind lexeme rest next parens')
    (hg : Blanks gap) (hb : Borders kind rest rest')
    (hp : Passes ⟨next, parens', rest'⟩ words) :
    Passes ⟨mode, parens, gap ++ (lexeme.toList ++ rest')⟩ ((kind, lexeme) :: words) := by
  have hdrop : (gap ++ (lexeme.toList ++ rest')).dropWhile isBlank = lexeme.toList ++ rest' := by
    rw [hg.dropWhile, h.no_blank]
  have hall : Passes ⟨mode, parens, gap ++ (lexeme.toList ++ rest')⟩ _ :=
    .token h.not_final (by rw [hdrop]; exact h.action rest' hb)
      (by rw [hdrop, List.drop_left]; exact hp)
  rwa [hdrop, Lexer.lexeme, List.take_left, String.ofList_toList] at hall

/-- Every word but the last is read in some mode, up to which the others leave the text to the
next. -/
theorem Passes.exists_reads (hg : Blanks gap) (hw : words ≠ [])
    (h : Passes ⟨mode, parens, gap ++ (lexeme.toList ++ rest)⟩ ((kind, lexeme) :: words)) :
    ∃ mode' next parens',
      Relation.ReflTransGen (HandsOver parens (gap ++ (lexeme.toList ++ rest))) mode mode' ∧
      Reads mode' parens kind lexeme rest next parens' ∧ Passes ⟨next, parens', rest⟩ words := by
  generalize hs : Spot.mk mode parens (gap ++ (lexeme.toList ++ rest)) = s at h
  generalize hall : (kind, lexeme) :: words = all at h
  induction h generalizing mode with
  | done => cases hall
  | handOver hf ha _ ih =>
    cases hs
    obtain ⟨mode', next, parens', hover, hread, hp⟩ := ih rfl hall
    exact ⟨mode', next, parens', .head ⟨hf, ha⟩ hover, hread, hp⟩
  | @token mode next parens parens' text kind' length words' hf ha hp =>
    cases hs
    obtain ⟨hword, rfl⟩ := List.cons.inj hall
    have hnext : next ≠ .done := by
      rintro rfl
      exact hw hp.of_done
    obtain ⟨front, behind, htext, rfl, hne, hlast⟩ := Mode.exists_front hf (ha {}) hnext
    rw [htext, Lexer.lexeme, List.take_left] at hword
    obtain ⟨rfl, rfl⟩ := Prod.mk.inj hword
    rw [String.toList_ofList] at *
    rw [htext, List.drop_left] at hp
    rw [hg.dropWhile] at htext
    obtain ⟨rfl, hkeep⟩ := dropWhile_front hne htext
    refine ⟨mode, next, parens', .refl, ⟨hf, ?_, ?_⟩, hp⟩
    · rwa [String.toList_ofList]
    · rwa [String.toList_ofList]

end

/-! Passing and running -/

namespace Machine
variable {m : Machine} {next : Mode} {parens : List Nat}

theorem step_emit {kind : Kind} {length : Nat} (hf : m.mode.isFinal = false)
    (h : m.mode.action m.parens m.cursor.skipBlank.position m.cursor.skipBlank.rest =
      .emit kind length next parens) :
    m.step = ⟨next, parens, m.cursor.skipBlank.advance length,
      m.cursor.skipBlank.token kind length :: m.tokens⟩ := by
  simp only [step, hf, Bool.false_eq_true, if_false, h]

theorem step_handOver (hf : m.mode.isFinal = false)
    (h : m.mode.action m.parens m.cursor.skipBlank.position m.cursor.skipBlank.rest =
      .handOver next) :
    m.step = { m with mode := next, cursor := m.cursor.skipBlank } := by
  simp only [step, hf, Bool.false_eq_true, if_false, h]

theorem step_fail {cause : LexError} {length : Nat} (hf : m.mode.isFinal = false)
    (h : m.mode.action m.parens m.cursor.skipBlank.position m.cursor.skipBlank.rest =
      .fail cause length) : m.step.mode = .failed := by
  simp only [step, hf, Bool.false_eq_true, if_false, h]

end Machine

/-- From where a run comes to its end, it passes. -/
theorem Machine.passes (n : Nat) (m : Machine) (h : (m.run n).mode = .done) :
    ∃ ts : List Token, (m.run n).tokens = ts.reverse ++ m.tokens ∧
      Passes ⟨m.mode, m.parens, m.cursor.rest⟩ (ts.map Token.word) := by
  induction n generalizing m with
  | zero =>
    have hm : m.mode = .done := h
    exact ⟨[], rfl, hm ▸ .done⟩
  | succ n ih =>
    rw [run_succ] at h ⊢
    cases hf : m.mode.isFinal with
    | true =>
      have hstep : m.step = m := by simp [step, hf]
      rw [hstep] at h ⊢
      exact ih m h
    | false =>
      obtain ⟨ts, hts, hp⟩ := ih m.step h
      have hrest := Cursor.rest_skipBlank m.cursor
      cases ha : m.mode.action m.parens m.cursor.skipBlank.position m.cursor.skipBlank.rest with
      | emit kind length next parens =>
        rw [step_emit hf ha] at hts hp ⊢
        refine ⟨m.cursor.skipBlank.token kind length :: ts, by simp [hts], ?_⟩
        rw [Cursor.rest_advance, hrest] at hp
        rw [List.map_cons, Token.word, Cursor.token, hrest]
        rw [hrest] at ha
        exact .token hf (Mode.action_emit hf ha) hp
      | handOver next =>
        rw [step_handOver hf ha] at hts hp ⊢
        rw [hrest] at ha
        refine ⟨ts, hts, .handOver hf (Mode.action_handOver hf ha rfl) (hp.blanks ?_)⟩
        rw [hrest]
        exact (List.dropWhile_idempotent _ _).symm
      | fail cause length =>
        have hfailed := step_fail hf ha
        rw [run_of_isFinal (by rw [hfailed]; rfl), hfailed] at h
        cases h

theorem passes_of_lex {text : String} {ts : List Token} (h : lex text = .ok ts) :
    Passes ⟨.root, [], visible text⟩ (ts.map Token.word) := by
  obtain ⟨us, hus, hp⟩ := Machine.passes _ (start text) (done_of_lex h)
  have hts : ts = us := by
    rw [← tokenize_of_lex h, tokenize_eq_run, hus]
    simp [start]
  exact hts ▸ hp

/-- What passes from a spot, a run passes from there. -/
theorem Passes.run (h : Passes s words) (m : Machine) (hm : m.At s) :
    ∃ n, (m.run n).mode = .done ∧
      (m.run n).tokens.map Token.word = words.reverse ++ m.tokens.map Token.word := by
  induction h generalizing m with
  | done => exact ⟨0, hm.1, rfl⟩
  | @token mode next parens parens' text kind length words hf ha rest ih =>
    obtain ⟨rfl, rfl, hrest⟩ := hm
    have hskip := Cursor.rest_skipBlank m.cursor
    rw [hrest] at hskip
    have hstep := Machine.step_emit hf (by rw [hskip]; exact ha _)
    obtain ⟨n, hn, hwords⟩ := ih m.step (by
      rw [hstep]
      refine ⟨rfl, rfl, ?_⟩
      rw [Cursor.rest_advance, hskip])
    refine ⟨n + 1, by rwa [Machine.run_succ], ?_⟩
    rw [Machine.run_succ, hwords, hstep, List.map_cons, Token.word, Cursor.token, hskip]
    simp
  | @handOver mode next parens text words hf ha rest ih =>
    obtain ⟨rfl, rfl, hrest⟩ := hm
    have hskip := Cursor.rest_skipBlank m.cursor
    rw [hrest] at hskip
    have hstep := Machine.step_handOver hf (by rw [hskip]; exact ha _)
    obtain ⟨n, hn, hwords⟩ := ih m.step (by
      rw [hstep]
      refine ⟨rfl, rfl, ?_⟩
      show m.cursor.skipBlank.rest.dropWhile isBlank = _
      rw [hskip]
      exact List.dropWhile_idempotent _ _)
    refine ⟨n + 1, by rwa [Machine.run_succ], ?_⟩
    rw [Machine.run_succ, hwords, hstep]

theorem tokenize_of_passes {text : String} (h : Passes ⟨.root, [], visible text⟩ words) :
    (tokenize text).map Token.word = words := by
  obtain ⟨n, hn, hwords⟩ := h.run (start text) (start_at text)
  have hf : ((start text).run n).mode.isFinal = true := by
    rw [hn]
    rfl
  rw [tokenize_of_isFinal hf, List.map_reverse, hwords]
  simp [start]

end

end Lexer

end PathQuery
