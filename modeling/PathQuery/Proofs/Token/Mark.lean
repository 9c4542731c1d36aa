import PathQuery.Proofs.Token.Extent
import PathQuery.Proofs.Token.Machine
import PathQuery.Query.Parser
import PathQuery.Regex.Search

/-! The end mark. Wherever the lexer meets it, in front, behind a backslash or within a number, it
does what it does at the end of a text, so that nothing behind the mark is read. -/
namespace PathQuery

namespace Scan

/-- Nothing, or the mark and what it hides. -/
def Hidden (text : List Char) : Prop := ∀ c ∈ text.head?, c = '\x00'

namespace Hidden
variable {hidden : List Char}

theorem eq_nil_or_cons (hh : Hidden hidden) : hidden = [] ∨ ∃ more, hidden = '\x00' :: more := by
  cases hidden with
  | nil => exact .inl rfl
  | cons c more =>
    obtain rfl := hh c rfl
    exact .inr ⟨more, rfl⟩

theorem takeWhile (hh : Hidden hidden) {p : Char → Bool} (h0 : p '\x00' = false)
    (text : List Char) : (text ++ hidden).takeWhile p = text.takeWhile p := by
  induction text with
  | nil =>
    rcases hh.eq_nil_or_cons with rfl | ⟨more, rfl⟩
    · rfl
    · simp [h0]
  | cons c text ih => rw [List.cons_append, List.takeWhile_cons, List.takeWhile_cons, ih]

theorem headD (hh : Hidden hidden) (text : List Char) :
    (text ++ hidden).headD '\x00' = text.headD '\x00' := by
  cases text with
  | nil => rcases hh.eq_nil_or_cons with rfl | ⟨more, rfl⟩ <;> rfl
  | cons c text => rfl

/-- What does not begin with a character does not do so in front of the mark either. -/
theorem not_cons (hh : Hidden hidden) {text : List Char} {d : Char} (hd : d ≠ '\x00')
    (h : ∀ more, text = d :: more → False) : ∀ more, text ++ hidden = d :: more → False := by
  intro more heq
  cases text with
  | nil =>
    rcases hh.eq_nil_or_cons with rfl | ⟨more, rfl⟩
    · cases heq
    · cases heq
      exact hd rfl
  | cons c text =>
    cases heq
    exact h text rfl

/-! Numbers -/

theorem digits (hh : Hidden hidden) (text : List Char) :
    digits (text ++ hidden) = digits text := by
  rw [Scan.digits, hh.takeWhile rfl, Scan.digits]

theorem whole (hh : Hidden hidden) (text : List Char) : whole (text ++ hidden) = whole text := by
  cases text with
  | nil => rcases hh.eq_nil_or_cons with rfl | ⟨more, rfl⟩ <;> rfl
  | cons c text =>
    by_cases hc : c = '-'
    · subst hc
      simp only [Scan.whole, List.cons_append, hh.digits, hh.headD]
    · have := hh.digits (c :: text)
      simpa [Scan.whole, hc] using this

theorem fraction (hh : Hidden hidden) (text : List Char) :
    fraction (text ++ hidden) = fraction text := by
  cases text with
  | nil => rcases hh.eq_nil_or_cons with rfl | ⟨more, rfl⟩ <;> rfl
  | cons c text =>
    by_cases hc : c = '.'
    · subst hc
      simp only [Scan.fraction, List.cons_append, hh.digits]
    · simp [Scan.fraction, hc]

theorem signLength (hh : Hidden hidden) (text : List Char) :
    signLength (text ++ hidden) = signLength text := by
  cases text with
  | nil => rcases hh.eq_nil_or_cons with rfl | ⟨more, rfl⟩ <;> rfl
  | cons c text => exact signLength_cons c _ _

theorem exponent (hh : Hidden hidden) (text : List Char) :
    exponent (text ++ hidden) = exponent text := by
  cases text with
  | nil => rcases hh.eq_nil_or_cons with rfl | ⟨more, rfl⟩ <;> rfl
  | cons c text =>
    by_cases hc : c = 'e' ∨ c = 'E'
    · rw [List.cons_append, exponent_cons hc, exponent_cons hc, hh.signLength,
        List.drop_append_of_le_length (signLength_le text), hh.digits]
    · rw [not_or] at hc
      simp [Scan.exponent, hc]

theorem number (hh : Hidden hidden) (text : List Char) :
    number (text ++ hidden) = number text := by
  have hwhole := extent_whole text
  simp only [Scan.number, hh.whole, bind, Except.bind]
  cases hw : Scan.whole text with
  | error e => rfl
  | ok a =>
    rw [hw] at hwhole
    have hfraction := extent_onward extent_fraction hwhole
    dsimp only [extent] at hwhole hfraction ⊢
    rw [List.drop_append_of_le_length hwhole, hh.fraction]
    cases hf : onward a (Scan.fraction (text.drop a)) with
    | error e => rfl
    | ok b =>
      rw [hf] at hfraction
      dsimp only [extent] at hfraction ⊢
      rw [List.drop_append_of_le_length hfraction, hh.exponent]

/-! Strings and patterns -/

theorem ne_backslash {c : Char} {rest : List Char}
    (hpair : ∀ d more, c = '\\' → rest = d :: more → False)
    (hlast : c = '\\' → rest = [] → False) : c ≠ '\\' := by
  intro hc
  cases rest with
  | nil => exact hlast hc rfl
  | cons d more => exact hpair d more hc rfl

theorem string (hh : Hidden hidden) {quote : Char} {opened : Position} {read : Nat}
    {text : List Char} (h0 : '\x00' ∉ text) :
    markedString quote opened read (text ++ hidden) = string quote opened read text := by
  fun_induction Scan.string quote opened read text with
  | case1 => rcases hh.eq_nil_or_cons with rfl | ⟨more, rfl⟩ <;> rfl
  | case2 read c rest hc ih =>
    simp only [List.cons_append, markedString, hc, if_true]
    exact ih fun hm => h0 (by simp [hm])
  | case3 read c rest hc => simp [markedString, hc]
  | case4 read =>
    rcases hh.eq_nil_or_cons with rfl | ⟨more, rfl⟩
    · rfl
    · simp [markedString, isEscapable]
  | case5 read rest hpair hlast =>
    have hb := ne_backslash hpair hlast
    have hn : quote ≠ '\x00' := fun hn => h0 (by simp [hn])
    simp [markedString, hb]
  | case6 read c rest hpair hlast hc ih =>
    have hb := ne_backslash hpair hlast
    have hn : c ≠ '\x00' := fun hn => h0 (by simp [hn])
    have := ih fun hm => h0 (by simp [hm])
    simpa [markedString, hb, hc] using this

theorem regex (hh : Hidden hidden) {opened : Position} {read : Nat}
    {text : List Char} (h0 : '\x00' ∉ text) :
    markedRegex opened read (text ++ hidden) = regex opened read text := by
  fun_induction Scan.regex opened read text with
  | case1 => rcases hh.eq_nil_or_cons with rfl | ⟨more, rfl⟩ <;> rfl
  | case2 read => rcases hh.eq_nil_or_cons with rfl | ⟨more, rfl⟩ <;> rfl
  | case3 read c rest ih =>
    have hc : c ≠ '\x00' := fun hc => h0 (by simp [hc])
    have := ih fun hm => h0 (by simp [hm])
    simpa [markedRegex] using this
  | case4 read rest => rfl
  | case5 read c rest hlast hpair hslash ih =>
    have hb := ne_backslash hpair hlast
    have hn : c ≠ '\x00' := fun hn => h0 (by simp [hn])
    have := ih fun hm => h0 (by simp [hm])
    simpa [markedRegex, hb, hslash] using this

end Hidden

end Scan

namespace Lexer
open Token Scan

/-! Actions in front of the mark -/

section
variable {mode next : Mode} {parens : List Nat} {here : Position} {text hidden : List Char}
  {c : Char}

theorem nameLength_hidden (hh : Hidden hidden) (text : List Char) :
    nameLength (text ++ hidden) = nameLength text := by
  rw [nameLength, hh.takeWhile (by decide), nameLength]

theorem lexeme_hidden {length : Nat} (h : length ≤ text.length) (hidden : List Char) :
    lexeme (text ++ hidden) length = lexeme text length := by
  rw [lexeme, List.take_append_of_le_length h, lexeme]

theorem isCall_hidden (hh : Hidden hidden) {length : Nat} (h : length ≤ text.length) :
    isCall (text ++ hidden) length = isCall text length := by
  rw [isCall, isCall, List.drop_append_of_le_length h]
  cases text.drop length with
  | nil => rcases hh.eq_nil_or_cons with rfl | ⟨more, rfl⟩ <;> rfl
  | cons d more => rfl

theorem name_hidden (hh : Hidden hidden) (text : List Char) :
    lexeme (text ++ hidden) (nameLength text) = lexeme text (nameLength text) ∧
      isCall (text ++ hidden) (nameLength text) = isCall text (nameLength text) :=
  ⟨lexeme_hidden (nameLength_le text) hidden, isCall_hidden hh (nameLength_le text)⟩

theorem numberToken_hidden (hh : Hidden hidden) :
    numberToken next parens (text ++ hidden) = numberToken next parens text := by
  have hle := extent_number text
  rw [numberToken, hh.number, numberToken]
  cases hn : number text with
  | error e => rfl
  | ok r =>
    rw [hn] at hle
    have hlexeme : lexeme (text ++ hidden) r.1 = lexeme text r.1 := lexeme_hidden hle hidden
    simp only [ofResult, hlexeme]

theorem stringToken_hidden (hh : Hidden hidden) (h0 : '\x00' ∉ text) {quote : Quote} :
    markedStringToken next parens here (c :: text ++ hidden) quote =
      stringToken next parens here (c :: text) quote := by
  have hle := extent_string quote.char here 1 text
  simp only [markedStringToken, stringToken, List.cons_append, List.drop_succ_cons, List.drop_zero,
    hh.string h0]
  cases hs : Scan.string quote.char here 1 text with
  | error e => rfl
  | ok length =>
    rw [hs] at hle
    have hle : length - 2 ≤ text.length := by
      simp only [Scan.extent] at hle
      omega
    simp only [ofResult, lexeme_hidden hle]

theorem regexToken_hidden (hh : Hidden hidden) (h0 : '\x00' ∉ text) :
    markedRegexToken parens here (c :: text ++ hidden) = regexToken parens here (c :: text) := by
  have hle := extent_regex here 1 text
  simp only [markedRegexToken, regexToken, List.drop_succ_cons, List.drop_zero, hh.regex h0,
    List.cons_append]
  cases hs : Scan.regex here 1 text with
  | error e => rfl
  | ok length =>
    rw [hs] at hle
    simp only [Scan.extent] at hle
    have hlexeme : length - 2 ≤ text.length := by omega
    have hflags : length ≤ (c :: text).length := by
      rw [List.length_cons]
      omega
    simp only [ofResult, lexeme_hidden hlexeme]
    rw [← List.cons_append, List.drop_append_of_le_length hflags, hh.takeWhile rfl]

theorem rootAction_hidden (hh : Hidden hidden) (text : List Char) :
    rootAction parens (text ++ hidden) = rootAction parens text := by
  conv_rhs => unfold rootAction
  split
  · rfl
  next h =>
    have := hh.not_cons (by decide) h
    rw [rootAction, peek, hh.headD]
    · rfl
    · exact this

theorem segmentAction_hidden (hh : Hidden hidden) :
    segmentAction parens (c :: text ++ hidden) = segmentAction parens (c :: text) := by
  generalize htext : c :: text = front
  conv_rhs => unfold segmentAction
  split
  case h_2 h =>
    have := hh.not_cons (by decide) h
    simp [segmentAction]
  case h_4 hdots hdot hbracket =>
    subst htext
    have hdot : c ≠ '.' := by simpa using hdot
    have hbracket : c ≠ '[' := by simpa using hbracket
    simp [segmentAction, hdot, hbracket]
  all_goals rfl

theorem descendantAction_hidden (hh : Hidden hidden) (text : List Char) :
    descendantAction parens (text ++ hidden) = descendantAction parens text := by
  conv_rhs => unfold descendantAction
  split
  case h_3 hstar hbracket =>
    have hstar := hh.not_cons (by decide) hstar
    have hbracket := hh.not_cons (by decide) hbracket
    rw [descendantAction, peek, hh.headD, nameLength_hidden hh, lexeme_hidden (nameLength_le text)]
    · rfl
    · exact hstar
    · exact hbracket
  all_goals rfl

theorem shorthandAction_hidden (hh : Hidden hidden) (text : List Char) :
    shorthandAction parens (text ++ hidden) = shorthandAction parens text := by
  conv_rhs => unfold shorthandAction
  split
  · rfl
  next hstar =>
    have hstar := hh.not_cons (by decide) hstar
    obtain ⟨hlexeme, hcall⟩ := name_hidden hh text
    rw [shorthandAction, peek, hh.headD, nameLength_hidden hh, hlexeme, hcall]
    · rfl
    · exact hstar

theorem bracketsAction_hidden (hh : Hidden hidden) (hs : c ≠ '\'') (hd : c ≠ '"') :
    bracketsAction parens here (c :: text ++ hidden) = bracketsAction parens here (c :: text) := by
  generalize htext : c :: text = front
  conv_rhs => unfold bracketsAction
  split
  case h_1 => cases htext
  case h_9 | h_10 =>
    cases htext
    contradiction
  case h_11 c text _ _ _ _ _ _ _ _ _ =>
    have hnumber : numberToken .brackets parens (c :: text ++ hidden) =
        numberToken .brackets parens (c :: text) := numberToken_hidden hh
    obtain ⟨hlexeme, hcall⟩ := name_hidden hh (c :: text)
    have hlength := nameLength_hidden hh (c :: text)
    rw [List.cons_append] at hnumber hlexeme hcall hlength ⊢
    rw [bracketsAction, hnumber, hlength, hlexeme, hcall]
    all_goals assumption
  all_goals rfl

theorem argumentsAction_hidden (hh : Hidden hidden) (hs : c ≠ '\'') (hd : c ≠ '"') :
    argumentsAction parens here (c :: text ++ hidden) =
      argumentsAction parens here (c :: text) := by
  generalize htext : c :: text = front
  conv_rhs => unfold argumentsAction
  split
  case h_1 => cases htext
  case h_5 | h_6 =>
    cases htext
    contradiction
  case h_7 c text _ _ _ _ _ =>
    have hnumber : numberToken .arguments parens (c :: text ++ hidden) =
        numberToken .arguments parens (c :: text) := numberToken_hidden hh
    rw [List.cons_append] at hnumber ⊢
    rw [argumentsAction, hnumber]
    all_goals assumption
  all_goals rfl

theorem filterAction_hidden (hh : Hidden hidden) (hs : c ≠ '\'') (hd : c ≠ '"') :
    filterAction parens here (c :: text ++ hidden) = filterAction parens here (c :: text) := by
  generalize htext : c :: text = front
  conv_rhs => unfold filterAction
  split
  case h_1 => cases htext
  case h_5 | h_6 =>
    cases htext
    contradiction
  -- A symbol that the next character does not go on with is followed by no such character in the
  -- longer text, the mark being none of them.
  case h_12 h | h_17 h | h_19 h | h_21 h | h_23 h =>
    have := hh.not_cons (by decide) h
    simp [filterAction]
  case h_15 htilde heq =>
    have htilde := hh.not_cons (by decide) htilde
    have heq := hh.not_cons (by decide) heq
    simp [filterAction]
  case h_24 c text _ _ _ _ _ _ _ _ _ _ _ _ _ _ _ _ _ _ _ _ _ _ =>
    have hnumber : numberToken .filter parens (c :: text ++ hidden) =
        numberToken .filter parens (c :: text) := numberToken_hidden hh
    obtain ⟨hlexeme, hcall⟩ := name_hidden hh (c :: text)
    have hlength := nameLength_hidden hh (c :: text)
    rw [List.cons_append] at hnumber hlexeme hcall hlength ⊢
    rw [filterAction, hnumber, hlength, hlexeme, hcall]
    all_goals
      intros
      contradiction
  all_goals rfl

theorem Mode.answer_literal (hh : Hidden hidden) (h0 : '\x00' ∉ c :: text)
    (hm : mode = .brackets ∨ mode = .arguments ∨ mode = .filter)
    (hplain : c ≠ '\'' → c ≠ '"' →
      mode.action parens here (c :: text ++ hidden) = mode.action parens here (c :: text)) :
    mode.answer parens here (c :: text ++ hidden) = mode.action parens here (c :: text) := by
  have hc : c ≠ '\x00' := fun hc => h0 (by simp [hc])
  have htext : '\x00' ∉ text := fun hm => h0 (by simp [hm])
  by_cases hs : c = '\''
  · subst hs
    rcases hm with rfl | rfl | rfl <;> exact stringToken_hidden hh htext
  · by_cases hd : c = '"'
    · subst hd
      rcases hm with rfl | rfl | rfl <;> exact stringToken_hidden hh htext
    · have := hplain hs hd
      rcases hm with rfl | rfl | rfl <;> simpa [answer, hc, hs, hd] using this

/-- A mode answers to a text with a mark as it does to what is in front of the mark. -/
theorem Mode.answer_hidden (hh : Hidden hidden) (h0 : '\x00' ∉ text) :
    mode.answer parens here (text ++ hidden) = mode.action parens here text := by
  cases text with
  | nil =>
    rcases hh.eq_nil_or_cons with rfl | ⟨more, rfl⟩
    · cases mode <;> rfl
    · cases mode <;> rfl
  | cons c text =>
    have hc : c ≠ '\x00' := fun hc => h0 (by simp [hc])
    have htext : '\x00' ∉ text := fun hm => h0 (by simp [hm])
    cases mode with
    | root => simpa [answer, action, hc] using rootAction_hidden hh (c :: text)
    | segment => simpa [answer, action, hc] using segmentAction_hidden hh
    | descendant => simpa [answer, action, hc] using descendantAction_hidden hh (c :: text)
    | shorthand => simpa [answer, action, hc] using shorthandAction_hidden hh (c :: text)
    | brackets => exact answer_literal hh h0 (.inl rfl) (bracketsAction_hidden hh)
    | arguments => exact answer_literal hh h0 (.inr (.inl rfl)) (argumentsAction_hidden hh)
    | filter => exact answer_literal hh h0 (.inr (.inr rfl)) (filterAction_hidden hh)
    | regex =>
      by_cases hs : c = '/'
      · subst hs
        exact regexToken_hidden hh htext
      · simp [answer, action, regexAction, hc, hs, peek]
    | done => simp [answer, action, hc]
    | failed => simp [answer, action, hc]

end

/-! Runs in front of the mark: at each step the cursor of the one lexer has the hidden text behind
what the cursor of the other has. -/

namespace Cursor
variable {hidden : List Char} {c : Cursor}

/-- The cursor in a text that goes on. -/
def before (c : Cursor) (hidden : List Char) : Cursor := { c with rest := c.rest ++ hidden }

theorem next_before (h : 0 < c.rest.length) : (c.before hidden).next = c.next.before hidden := by
  obtain ⟨rest, offset, position⟩ := c
  cases rest with
  | nil => simp at h
  | cons d rest => rfl

theorem advance_before {n : Nat} (h : n ≤ c.rest.length) :
    (c.before hidden).advance n = (c.advance n).before hidden := by
  induction n generalizing c with
  | zero => rfl
  | succ n ih =>
    have hnext : c.next.rest.length = c.rest.length - 1 := by
      have := congrArg List.length (rest_advance c 1)
      simpa [advance] using this
    rw [advance, next_before (by omega), advance]
    exact ih (by omega)

theorem skipBlank_before (hh : Hidden hidden) (c : Cursor) :
    (c.before hidden).skipBlank = c.skipBlank.before hidden := by
  have hlength := (List.takeWhile_sublist isBlank (l := c.rest)).length_le
  rw [skipBlank, before, hh.takeWhile rfl]
  exact advance_before hlength

theorem token_before {kind : Kind} {length : Nat} (h : length ≤ c.rest.length) :
    (c.before hidden).token kind length = c.token kind length := by
  rw [token, advance_before h, token]
  simp only [before, lexeme_hidden h]

end Cursor

namespace Machine
variable {hidden : List Char} {m : Machine}

/-- The lexer in a text that goes on. -/
def before (m : Machine) (hidden : List Char) : Machine :=
  { m with cursor := m.cursor.before hidden }

theorem obey_before {cursor : Cursor} {a : Action} (h : a.extent ≤ cursor.rest.length) :
    (m.before hidden).obey (cursor.before hidden) a = (m.obey cursor a).before hidden := by
  cases a with
  | emit kind length next parens =>
    have h : length ≤ cursor.rest.length := h
    simp only [obey, before, Cursor.advance_before h, Cursor.token_before h]
  | handOver next => rfl
  | fail cause length =>
    have h : length ≤ cursor.rest.length := h
    simp only [obey, before, Cursor.token_before h]

theorem step_eq_obey (hf : m.mode.isFinal = false) :
    m.step = m.obey m.cursor.skipBlank
      (m.mode.action m.parens m.cursor.skipBlank.position m.cursor.skipBlank.rest) := by
  rw [step, if_neg (by simp [hf])]
  dsimp only
  split <;> simp only [obey, *]

theorem markedStep_before (hh : Hidden hidden) (hm : m.Sound) :
    (m.before hidden).markedStep = m.step.before hidden := by
  cases hf : m.mode.isFinal with
  | true =>
    have hmarked : (m.before hidden).markedStep = m.before hidden := if_pos hf
    have hstep : m.step = m := if_pos hf
    rw [hmarked, hstep]
  | false =>
    have hmarked : (m.before hidden).markedStep =
        (m.before hidden).obey (m.cursor.skipBlank.before hidden) (m.mode.answer m.parens
          m.cursor.skipBlank.position (m.cursor.skipBlank.rest ++ hidden)) := by
      have hskip := Cursor.skipBlank_before hh m.cursor
      rw [markedStep, if_neg (by simp [before, hf])]
      simp only [before, hskip]
      rfl
    rw [hmarked, Mode.answer_hidden hh hm.skipBlank_visible, obey_before Mode.action_extent,
      step_eq_obey hf]

/-- In front of a mark the lexer runs as it does in front of the end. -/
theorem markedRun_before (hh : Hidden hidden) (hm : m.Sound) (fuel : Nat) :
    (m.before hidden).markedRun fuel = (m.run fuel).before hidden := by
  induction fuel generalizing m with
  | zero => rfl
  | succ fuel ih =>
    rw [markedRun, run, markedStep_before hh hm]
    cases hf : m.mode.isFinal with
    | true => rw [if_pos (by exact hf), if_pos rfl]
    | false =>
      rw [if_neg (by simp [before, hf]), if_neg (by simp)]
      exact ih (step_sound hm)

end Machine

theorem exists_hidden (text : String) :
    ∃ hidden, Hidden hidden ∧ text.toList = visible text ++ hidden := by
  refine ⟨text.toList.dropWhile (· ≠ '\x00'), ?_, List.takeWhile_append_dropWhile.symm⟩
  intro c hc
  have hstop := List.head?_dropWhile_not (· ≠ '\x00') text.toList
  rw [Option.mem_def.1 hc] at hstop
  simpa using hstop

/-- However long the lexer takes to end, its tokens are those of what is visible. -/
theorem tokenize_of_isFinal {text : String} {fuel : Nat}
    (h : ((start text).run fuel).mode.isFinal = true) :
    tokenize text = ((start text).run fuel).tokens.reverse := by
  obtain ⟨hidden, hh, htext⟩ := exists_hidden text
  -- The fuel is counted from the whole text, which is more than the visible part needs.
  have hlong : (start text).stepsLeft ≤ 2 * text.toList.length + 2 := by
    have := Machine.stepsLeft_le (start text)
    have hlength : text.toList.length = (visible text).length + hidden.length := by
      rw [htext, List.length_append]
    simp only [start] at this ⊢
    omega
  have hstart : ({ cursor := { rest := text.toList } } : Machine) = (start text).before hidden := by
    rw [htext]
    rfl
  have hfinal := Machine.run_isFinal (start_sound text) hlong
  rw [tokenize, hstart, Machine.markedRun_before hh (start_sound text),
    Machine.run_eq_of_isFinal h hfinal]
  rfl

theorem tokenize_eq_run (text : String) :
    tokenize text = ((start text).run (2 * (visible text).length + 2)).tokens.reverse :=
  tokenize_of_isFinal (start_run_isFinal text)

/-- Texts of which the same is visible have the same tokens. -/
theorem tokenize_congr {text text' : String} (h : visible text' = visible text) :
    tokenize text' = tokenize text := by
  have hstart : start text' = start text := by rw [start, h, start]
  rw [tokenize_eq_run, tokenize_eq_run, hstart, h]

theorem tokenize_shaped (text : String) : Shaped (tokenize text) := by
  rw [tokenize_eq_run]
  intro t ht
  exact (Machine.run_sound (start_sound text) _).shaped t (List.mem_reverse.1 ht)

end Lexer

theorem tokenize_of_lex {text : String} {ts : List Token} (h : lex text = .ok ts) :
    Lexer.tokenize text = ts := by
  unfold lex at h
  dsimp only at h
  split at h
  · simp at h
  · exact Except.ok.inj h

theorem lex_eq_ok_iff {text : String} {ts : List Token} :
    lex text = .ok ts ↔
      Lexer.tokenize text = ts ∧ ∀ t ∈ ts.getLast?, ∀ cause, t.kind ≠ .invalid cause := by
  unfold lex
  dsimp only
  split
  next cause _ _ _ _ hlast =>
    constructor
    · intro h
      cases h
    · rintro ⟨rfl, h⟩
      exact absurd rfl (h _ hlast cause)
  next hlast =>
    constructor
    · intro h
      cases h
      refine ⟨rfl, fun t ht cause hk => ?_⟩
      obtain ⟨kind, lexeme, start, stop, position⟩ := t
      cases hk
      exact hlast _ _ _ _ _ ht
    · rintro ⟨rfl, -⟩
      rfl

/-- Where no token is invalid, the lexer has come to the end. -/
theorem Lexer.done_of_lex {text : String} {ts : List Token} (h : lex text = .ok ts) :
    ((start text).run (2 * (visible text).length + 2)).mode = .done := by
  have hfinal := start_run_isFinal text
  cases hm : ((start text).run (2 * (visible text).length + 2)).mode with
  | done => rfl
  | failed =>
    obtain ⟨⟨kind, lexeme, start', stop, position⟩, older, cause, hts, hcause⟩ :=
      (Machine.run_sound (start_sound text) _).failed hm
    cases hcause
    simp [lex, tokenize_eq_run, hts] at h
  | _ => simp [hm, Mode.isFinal] at hfinal

theorem lex_shaped {text : String} {ts : List Token} (h : lex text = .ok ts) : Shaped ts := by
  rw [← tokenize_of_lex h]
  exact Lexer.tokenize_shaped text

theorem visible_ofList_visible (text : String) :
    Lexer.visible (String.ofList (Lexer.visible text)) = Lexer.visible text := by
  rw [Lexer.visible_eq_toList, String.toList_ofList]
  rw [String.toList_ofList]
  exact Lexer.nul_notMem_visible text

theorem lex_congr {text text' : String} (h : Lexer.visible text' = Lexer.visible text) :
    lex text' = lex text := by
  simp only [lex, Lexer.tokenize_congr h]

/-- Nothing behind the first U+0000 of a text is read: the tokens are those of what is in front of
it, with their places and with what is wrong, and so are the query and the error. -/
theorem Query.reads_only_visible [Pattern.Engine] (text : String) :
    Lexer.tokenize text = Lexer.tokenize (String.ofList (Lexer.visible text)) ∧
      ∀ text', Lexer.visible text' = Lexer.visible text →
        ∀ env, Query.parse env text' = Query.parse env text := by
  constructor
  · exact Lexer.tokenize_congr (visible_ofList_visible text).symm
  · intro text' h env
    rw [parse, parse, lex_congr h]

/-- The mark stands in a string, behind a backslash. -/
theorem Query.reads_only_visible_escape :
    Lexer.visible "$['a\\\x00']" = Lexer.visible "$['a\\\x00n', *]" ∧
      Lexer.tokenize "$['a\\\x00n', *]" = Lexer.tokenize "$['a\\" ∧
      ∀ env, Query.parse env "$['a\\\x00']" = Query.parse env "$['a\\\x00n', *]" := by
  have hvisible : Lexer.visible "$['a\\\x00']" = Lexer.visible "$['a\\\x00n', *]" := by decide
  obtain ⟨htokens, hparse⟩ := reads_only_visible "$['a\\\x00n', *]"
  exact ⟨hvisible, htokens, hparse _ hvisible⟩

end PathQuery
