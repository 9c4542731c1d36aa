import PathQuery.Proofs.Text.Escapes
import PathQuery.Proofs.Token.Mark

/-! Runs of the lexer between places in a text, whatever the positions and the tokens before. -/
namespace PathQuery.Lexer
open Token Scan

/-- A mode, the open parentheses and the text in front, of which blanks do not count. -/
structure Spot where
  mode : Mode
  parens : List Nat
  text : List Char

namespace Machine

def At (m : Machine) (s : Spot) : Prop :=
  m.mode = s.mode ∧ m.parens = s.parens ∧
    m.cursor.rest.dropWhile isBlank = s.text.dropWhile isBlank

/-- The kinds of the tokens, the newest first. -/
def kinds (m : Machine) : List Kind := m.tokens.map Token.kind

end Machine

/-- From one place the lexer comes to another, and makes tokens of these kinds on the way. -/
def Leads (s : Spot) (ks : List Kind) (t : Spot) : Prop :=
  ∀ m : Machine, m.At s → ∃ n, (m.run n).At t ∧ (m.run n).kinds = ks.reverse ++ m.kinds

/-- From here the lexer comes to nothing. -/
def Fails (s : Spot) : Prop := ∀ m : Machine, m.At s → ∃ n, (m.run n).mode = .failed

section
variable {s t u : Spot} {mode next : Mode} {parens parens' : List Nat} {text : List Char}
  {ks ks' : List Kind}

theorem Leads.refl (s : Spot) : Leads s [] s := fun _ h => ⟨0, h, rfl⟩

theorem Leads.trans (h : Leads s ks t) (h' : Leads t ks' u) : Leads s (ks ++ ks') u := by
  intro m hm
  obtain ⟨a, ha, hk⟩ := h m hm
  obtain ⟨b, hb, hk'⟩ := h' _ ha
  refine ⟨a + b, ?_, ?_⟩
  · rwa [Machine.run_add]
  · rw [Machine.run_add, hk', hk, List.reverse_append, List.append_assoc]

theorem Leads.cons {k : Kind} (h : Leads s [k] t) (h' : Leads t ks u) : Leads s (k :: ks) u :=
  h.trans h'

theorem Leads.fails (h : Leads s ks t) (h' : Fails t) : Fails s := by
  intro m hm
  obtain ⟨a, ha, -⟩ := h m hm
  obtain ⟨b, hb⟩ := h' _ ha
  exact ⟨a + b, by rwa [Machine.run_add]⟩

/-- The lexer comes to an end in one way only. -/
theorem Leads.unique (h : Leads s ks t) (h' : Leads s ks' u) (ht : t.mode.isFinal = true)
    (hu : u.mode.isFinal = true) : ks = ks' := by
  have here : Machine.At { mode := s.mode, parens := s.parens, cursor := { rest := s.text } } s :=
    ⟨rfl, rfl, rfl⟩
  obtain ⟨a, ha, hk⟩ := h _ here
  obtain ⟨b, hb, hk'⟩ := h' _ here
  rw [Machine.run_eq_of_isFinal (ha.1 ▸ ht) (hb.1 ▸ hu), hk'] at hk
  exact List.reverse_injective (List.append_cancel_right hk).symm

theorem Leads.emit {kind : Kind} {length : Nat} (hf : mode.isFinal = false)
    (h : ∀ here,
      mode.action parens here (text.dropWhile isBlank) = .emit kind length next parens') :
    Leads ⟨mode, parens, text⟩ [kind]
      ⟨next, parens', (text.dropWhile isBlank).drop length⟩ := by
  rintro m ⟨rfl, rfl, hrest⟩
  have hrest : m.cursor.skipBlank.rest = text.dropWhile isBlank := by
    rw [Cursor.rest_skipBlank, hrest]
  have ha := h m.cursor.skipBlank.position
  rw [← hrest] at ha
  refine ⟨1, ?_, ?_⟩
  · simp only [Machine.run, Machine.step, hf, Bool.false_eq_true, if_false, ha]
    refine ⟨rfl, rfl, ?_⟩
    rw [Cursor.rest_advance, hrest]
  · simp only [Machine.run, Machine.step, hf, Bool.false_eq_true, if_false, ha]
    rfl

theorem Leads.handOver (hf : mode.isFinal = false)
    (h : ∀ here, mode.action parens here (text.dropWhile isBlank) = .handOver next) :
    Leads ⟨mode, parens, text⟩ [] ⟨next, parens, text⟩ := by
  rintro m ⟨rfl, rfl, hrest⟩
  have hskip : m.cursor.skipBlank.rest = text.dropWhile isBlank := by
    rw [Cursor.rest_skipBlank, hrest]
  have ha := h m.cursor.skipBlank.position
  rw [← hskip] at ha
  refine ⟨1, ?_, ?_⟩
  · simp only [Machine.run, Machine.step, hf, Bool.false_eq_true, if_false, ha]
    refine ⟨rfl, rfl, ?_⟩
    rw [hskip]
    exact List.dropWhile_idempotent _ _
  · simp only [Machine.run, Machine.step, hf, Bool.false_eq_true, if_false, ha]
    rfl

theorem Fails.of_action (hf : mode.isFinal = false)
    (h : ∀ here, ∃ cause length,
      mode.action parens here (text.dropWhile isBlank) = .fail cause length) :
    Fails ⟨mode, parens, text⟩ := by
  rintro m ⟨rfl, rfl, hrest⟩
  obtain ⟨cause, length, ha⟩ := h m.cursor.skipBlank.position
  rw [← hrest, ← Cursor.rest_skipBlank] at ha
  refine ⟨1, ?_⟩
  simp only [Machine.run, Machine.step, hf, Bool.false_eq_true, if_false, ha]

end

/-- Blanks in front do not count. -/
theorem Leads.blank {mode : Mode} {parens : List Nat} {c : Char} {text : List Char} {ks : List Kind}
    {t : Spot} (hc : isBlank c = true) (h : Leads ⟨mode, parens, text⟩ ks t) :
    Leads ⟨mode, parens, c :: text⟩ ks t := by
  rintro m ⟨hm, hp, hrest⟩
  exact h m ⟨hm, hp, by simpa [hc] using hrest⟩

theorem start_at (text : String) : (start text).At ⟨.root, [], visible text⟩ := ⟨rfl, rfl, rfl⟩

/-- The tokens of a text that the lexer comes through. -/
theorem tokenize_of_leads {text : String} {ks : List Kind} {parens : List Nat} {rest : List Char}
    (h : Leads ⟨.root, [], visible text⟩ ks ⟨.done, parens, rest⟩) :
    (tokenize text).map Token.kind = ks := by
  obtain ⟨n, hn, hk⟩ := h _ (start_at text)
  have hf : ((start text).run n).mode.isFinal = true := by
    rw [hn.1]
    rfl
  rw [tokenize_of_isFinal hf, List.map_reverse]
  show ((start text).run n).kinds.reverse = ks
  rw [hk]
  simp [Machine.kinds, start]

/-- A text that the lexer does not come through is refused. -/
theorem lex_of_fails {text : String} (h : Fails ⟨.root, [], visible text⟩) {ts : List Token} :
    lex text ≠ .ok ts := by
  obtain ⟨n, hn⟩ := h _ (start_at text)
  have hf : ((start text).run n).mode.isFinal = true := by
    rw [hn]
    rfl
  intro hlex
  have hd := done_of_lex hlex
  rw [Machine.run_eq_of_isFinal (start_run_isFinal text) hf, hn] at hd
  cases hd

end PathQuery.Lexer
