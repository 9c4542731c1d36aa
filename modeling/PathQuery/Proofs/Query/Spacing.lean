import PathQuery.Proofs.Canonical.Visible
import PathQuery.Proofs.Query.Alike
import PathQuery.Proofs.Token.Passage

/-! Blanks between tokens. Inserting more of them changes neither the words of a text nor what they
are parsed into; only the places in errors move. -/
namespace PathQuery
open Token

namespace Lexer
open Scan

/-- More blanks in the place of blanks. -/
structure Widened (gap gap' : List Char) : Prop where
  sublist : gap.Sublist gap'
  blank : Blanks gap'

/-- A text with these tokens, and the same text with blanks inserted before the first token, before
the end of the query or between two tokens, but not behind the name of a function. -/
inductive Respaced : List Token → List Char → List Char → Prop where
  | last {t : Token} {gap gap' rest : List Char} (h : Widened gap gap') :
      Respaced [t] (gap ++ rest) (gap' ++ rest)
  | token {t : Token} {ts : List Token} {gap gap' rest rest' : List Char} (h : Widened gap gap')
      (hcall : ∀ name, t.kind = .function name → rest'.head? = rest.head?)
      (more : Respaced ts rest rest') :
      Respaced (t :: ts) (gap ++ (t.lexeme.toList ++ rest)) (gap' ++ (t.lexeme.toList ++ rest'))

namespace Widened
variable {gap gap' rest : List Char}

theorem blank_before (h : Widened gap gap') : Blanks gap :=
  fun c hc => h.blank c (h.sublist.mem hc)

theorem dropWhile (h : Widened gap gap') (rest : List Char) :
    (gap ++ rest).dropWhile isBlank = rest.dropWhile isBlank ∧
      (gap' ++ rest).dropWhile isBlank = rest.dropWhile isBlank :=
  ⟨h.blank_before.dropWhile rest, h.blank.dropWhile rest⟩

/-- Where blanks are inserted, the text goes on with a blank; where none are, as before. -/
theorem head? (h : Widened gap gap') {rest rest' : List Char}
    (hr : rest'.head? = rest.head? ∨ ∃ c, rest'.head? = some c ∧ isBlank c = true) :
    (gap' ++ rest').head? = (gap ++ rest).head? ∨
      ∃ c, (gap' ++ rest').head? = some c ∧ isBlank c = true := by
  cases gap' with
  | nil =>
    obtain rfl := List.sublist_nil.1 h.sublist
    exact hr
  | cons c gap' => exact .inr ⟨c, rfl, h.blank c (by simp)⟩

end Widened

namespace Respaced
variable {ts : List Token} {text text' : List Char}

theorem ne_nil (h : Respaced ts text text') : ts ≠ [] := by
  cases h <;> simp

theorem head? (h : Respaced ts text text') :
    text'.head? = text.head? ∨ ∃ c, text'.head? = some c ∧ isBlank c = true := by
  induction h with
  | last h => exact h.head? (.inl rfl)
  | @token t ts gap gap' rest rest' h _ _ ih =>
    refine h.head? ?_
    cases t.lexeme.toList with
    | nil => exact ih
    | cons c lexeme => exact .inl rfl

theorem borders {kind : Kind} (h : Respaced ts text text')
    (hcall : ∀ name, kind = .function name → text'.head? = text.head?) :
    Borders kind text text' := by
  by_cases hk : ∃ name, kind = .function name
  · obtain ⟨name, hk⟩ := hk
    exact .inl (hcall name hk)
  · rcases h.head? with hh | ⟨c, hc, hb⟩
    · exact .inl hh
    · exact .inr ⟨not_exists.1 hk, c, hc, by simp [isSeparator, hb]⟩

/-- Apart from blanks, both texts begin in the same way. -/
theorem dropWhile_head? (h : Respaced ts text text') :
    (text'.dropWhile isBlank).head? = (text.dropWhile isBlank).head? := by
  induction h with
  | last h => rw [(h.dropWhile _).1, (h.dropWhile _).2]
  | @token t ts gap gap' rest rest' h _ _ ih =>
    rw [(h.dropWhile _).1, (h.dropWhile _).2]
    induction t.lexeme.toList with
    | nil => exact ih
    | cons c lexeme ihl =>
      by_cases hc : isBlank c = true
      · simpa [hc] using ihl
      · simp [hc]

theorem opensSegment (h : Respaced ts text text') :
    Lexer.opensSegment (text'.dropWhile isBlank) = Lexer.opensSegment (text.dropWhile isBlank) := by
  rw [Lexer.opensSegment, Lexer.opensSegment, h.dropWhile_head?]

theorem cut (h : Respaced ts text text') (h0 : ∀ t ∈ ts, '\x00' ∉ t.lexeme.toList) :
    Respaced ts (PathQuery.cut text) (PathQuery.cut text') := by
  induction h with
  | last h =>
    rw [cut_append h.blank_before.nul_notMem, cut_append h.blank.nul_notMem]
    exact .last h
  | @token t ts gap gap' rest rest' h hcall _ ih =>
    obtain ⟨ht, hts⟩ := List.forall_mem_cons.1 h0
    rw [cut_append h.blank_before.nul_notMem, cut_append h.blank.nul_notMem, cut_append ht,
      cut_append ht]
    refine .token h ?_ (ih hts)
    intro name hk
    rw [PathQuery.cut, PathQuery.cut, List.head?_takeWhile, List.head?_takeWhile, hcall name hk]

end Respaced

/-- The same words are passed wherever blanks are inserted. -/
theorem Passes.respaced {ts : List Token} {text text' : List Char} (hr : Respaced ts text text')
    {mode : Mode} {parens : List Nat} (h : Passes ⟨mode, parens, text⟩ (ts.map Token.word)) :
    Passes ⟨mode, parens, text'⟩ (ts.map Token.word) := by
  induction hr generalizing mode parens with
  | last hg =>
    refine h.blanks ?_
    rw [(hg.dropWhile _).1, (hg.dropWhile _).2]
  | @token t ts gap gap' rest rest' hg hcall more ih =>
    have hr : Respaced (t :: ts) _ _ := .token hg hcall more
    obtain ⟨mode', next, parens', hover, hread, hp⟩ :=
      h.exists_reads hg.blank_before (by simpa using more.ne_nil)
    refine .of_handsOver (HandsOver.chain_congr hover hr.opensSegment) ?_
    exact hread.passes hg.blank (more.borders hcall) (ih hp)

theorem words_respaced {text text' : String} {ts : List Token} (hl : lex text = .ok ts)
    (hr : Respaced ts text.toList text'.toList) :
    (tokenize text').map Token.word = ts.map Token.word := by
  have passes := passes_of_lex hl
  have hlexeme : ∀ t ∈ ts, '\x00' ∉ t.lexeme.toList := fun t ht =>
    passes.nul_notMem (nul_notMem_visible text) _ (List.mem_map_of_mem ht)
  exact tokenize_of_passes (passes.respaced (hr.cut hlexeme))

end Lexer

/-- A text whose words are those of a text that passes the lexer passes it, too. -/
theorem lex_of_words {text text' : String} {ts : List Token} (hl : lex text = .ok ts)
    (hw : (Lexer.tokenize text').map Token.word = ts.map Token.word) :
    lex text' = .ok (Lexer.tokenize text') := by
  obtain ⟨-, hvalid⟩ := lex_eq_ok_iff.1 hl
  refine lex_eq_ok_iff.2 ⟨rfl, fun t ht cause hk => ?_⟩
  have hlast : (ts.map Token.word).getLast? = some t.word := by
    rw [← hw, List.getLast?_map, ht]
    rfl
  rw [List.getLast?_map, Option.map_eq_some_iff] at hlast
  obtain ⟨u, hu, hword⟩ := hlast
  exact hvalid u hu cause ((congrArg Prod.fst hword).trans hk)

namespace Query
open Lexer

/-- Tokens with the same words are parsed alike, but for the places in errors. -/
theorem ofTokens_words [Pattern.Engine] {ts us : List Token}
    (h : us.map Token.word = ts.map Token.word) (env : Environment) :
    PathQuery.Alike (fun _ _ => True) Eq (ofTokens env ts) (ofTokens env us) := by
  have words : List.Forall₂ Eq (ts.map Token.word) (us.map Token.word) := by
    rw [List.forall₂_eq_eq_eq]
    exact h.symm
  rw [List.forall₂_map_left_iff, List.forall₂_map_right_iff] at words
  have alike : TokensAlike env env (fun _ _ => True) ts us :=
    words.imp fun t u htu => ⟨congrArg Prod.fst htu, trivial, fun _ _ => rfl⟩
  exact ofTokens_alike trivial alike

/-- Blanks between tokens do not matter: wherever they are inserted, the text has the same kinds
and lexemes and is parsed into the same query, or refused with the same message. -/
theorem parse_respaced [Pattern.Engine] {text text' : String} {ts : List Token}
    (hl : lex text = .ok ts) (hr : Respaced ts text.toList text'.toList) :
    (∃ us, lex text' = .ok us ∧ us.map Token.word = ts.map Token.word) ∧
    ∀ env, (∃ q, parse env text = .ok q ∧ parse env text' = .ok q) ∨
      ∃ e e', parse env text = .error e ∧ parse env text' = .error e' ∧
        e'.message = e.message := by
  have hwords := words_respaced hl hr
  have hl' := lex_of_words hl hwords
  refine ⟨⟨_, hl', hwords⟩, fun env => ?_⟩
  have alike := ofTokens_words hwords env
  simp only [parse, hl, hl', bind, Except.bind]
  cases hq : ofTokens env ts with
  | ok q =>
    cases hq' : ofTokens env (tokenize text') with
    | ok q' =>
      rw [hq, hq'] at alike
      obtain rfl : q = q' := alike
      exact .inl ⟨q, rfl, rfl⟩
    | error e =>
      rw [hq, hq'] at alike
      exact alike.elim
  | error e =>
    cases hq' : ofTokens env (tokenize text') with
    | ok q =>
      rw [hq, hq'] at alike
      exact alike.elim
    | error e' =>
      rw [hq, hq'] at alike
      refine .inr ⟨e, e', rfl, rfl, ?_⟩
      rw [SyntaxError.message, SyntaxError.message, alike.1]

theorem parse_respaced_call :
    ∃ ts, lex "$.keys()" = .ok ts ∧
      Respaced ts "$.keys()".toList "\t$ .\n keys( )\r\n".toList ∧
      (∃ us, lex "\t$ .\n keys( )\r\n" = .ok us ∧ us.map Token.word = ts.map Token.word) ∧
      ∀ env, (∃ q, parse env "$.keys()" = .ok q ∧ parse env "\t$ .\n keys( )\r\n" = .ok q) ∨
        ∃ e e', parse env "$.keys()" = .error e ∧
          parse env "\t$ .\n keys( )\r\n" = .error e' ∧ e'.message = e.message := by
  have lexes : lex "$.keys()" = .ok
      [⟨.root, "$", 0, 1, ⟨1, 1⟩⟩, ⟨.dot, ".", 1, 2, ⟨1, 2⟩⟩,
        ⟨.function "keys", "keys", 2, 6, ⟨1, 3⟩⟩, ⟨.openParen, "(", 6, 7, ⟨1, 7⟩⟩,
        ⟨.closeParen, ")", 7, 8, ⟨1, 8⟩⟩, ⟨.endOfQuery, "", 8, 8, ⟨1, 9⟩⟩] := rfl
  have widened (gap : List Char) (h : Blanks gap) : Widened [] gap :=
    ⟨List.nil_sublist gap, h⟩
  refine ⟨_, lexes, ?respaced, parse_respaced lexes ?respaced⟩
  refine .token (widened ['\t'] (by decide)) (by simp) ?_
  refine .token (widened [' '] (by decide)) (by simp) ?_
  refine .token (widened ['\n', ' '] (by decide)) (fun _ _ => rfl) ?_
  refine .token (widened [] (by decide)) (by simp) ?_
  refine .token (widened [' '] (by decide)) (by simp) ?_
  exact .last (widened ['\r', '\n'] (by decide))

end Query

end PathQuery
