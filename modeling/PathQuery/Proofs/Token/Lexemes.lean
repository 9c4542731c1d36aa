import PathQuery.Proofs.Number.Numeral
import PathQuery.Proofs.Query.Grammar
import PathQuery.Proofs.Token.Spot

/-! What the lexer makes of the lexemes of canonical texts, each in front of any rest. -/
namespace PathQuery.Lexer
open Token Scan

section
variable {parens : List Nat} {rest : List Char}

/-- A lexeme that its mode turns into a token is passed. -/
theorem Leads.lexeme {mode next : Mode} {parens' : List Nat} {text : List Char} {kind : Kind}
    (hf : mode.isFinal = false) (hblank : (text ++ rest).dropWhile isBlank = text ++ rest)
    (h : ∀ here, mode.action parens here (text ++ rest) = .emit kind text.length next parens') :
    Leads ⟨mode, parens, text ++ rest⟩ [kind] ⟨next, parens', rest⟩ := by
  have hl : Leads ⟨mode, parens, text ++ rest⟩ [kind]
      ⟨next, parens', ((text ++ rest).dropWhile isBlank).drop text.length⟩ :=
    .emit hf fun here => by rw [hblank]; exact h here
  rwa [hblank, List.drop_left] at hl

theorem Leads.one {mode next : Mode} {parens' : List Nat} {c : Char} {kind : Kind}
    (hb : isBlank c = false) (hf : mode.isFinal = false)
    (h : ∀ here, mode.action parens here (c :: rest) = .emit kind 1 next parens') :
    Leads ⟨mode, parens, c :: rest⟩ [kind] ⟨next, parens', rest⟩ := by
  have hl : Leads ⟨mode, parens, [c] ++ rest⟩ [kind] ⟨next, parens', rest⟩ :=
    .lexeme hf (by simp [hb]) h
  exact hl

theorem Leads.two {mode next : Mode} {parens' : List Nat} {c d : Char} {kind : Kind}
    (hb : isBlank c = false) (hf : mode.isFinal = false)
    (h : ∀ here, mode.action parens here (c :: d :: rest) = .emit kind 2 next parens') :
    Leads ⟨mode, parens, c :: d :: rest⟩ [kind] ⟨next, parens', rest⟩ := by
  have hl : Leads ⟨mode, parens, [c, d] ++ rest⟩ [kind] ⟨next, parens', rest⟩ :=
    .lexeme hf (by simp [hb]) h
  exact hl

/-! Symbols -/

theorem leads_root : Leads ⟨.root, parens, '$' :: rest⟩ [.root] ⟨.segment, parens, rest⟩ :=
  .one rfl rfl fun _ => rfl

theorem leads_end : Leads ⟨.segment, [], []⟩ [.endOfQuery] ⟨.done, [], []⟩ := by
  have hl : Leads ⟨.segment, [], [] ++ []⟩ [.endOfQuery] ⟨.done, [], []⟩ :=
    .lexeme rfl rfl fun _ => rfl
  exact hl

theorem leads_doubleDot :
    Leads ⟨.segment, parens, '.' :: '.' :: rest⟩ [.doubleDot] ⟨.descendant, parens, rest⟩ :=
  .two rfl rfl fun _ => rfl

/-- Modes in which a bracketed selection may begin. -/
def Mode.Selects (mode : Mode) : Prop := mode = .segment ∨ mode = .descendant

theorem leads_openBracket {mode : Mode} (hm : mode.Selects) :
    Leads ⟨mode, parens, '[' :: rest⟩ [.openBracket] ⟨.brackets, parens, rest⟩ := by
  rcases hm with rfl | rfl <;> exact .one rfl rfl fun _ => rfl

theorem leads_closeBracket :
    Leads ⟨.brackets, parens, ']' :: rest⟩ [.closeBracket] ⟨.segment, parens, rest⟩ :=
  .one rfl rfl fun _ => rfl

theorem leads_star :
    Leads ⟨.brackets, parens, '*' :: rest⟩ [.star] ⟨.brackets, parens, rest⟩ :=
  .one rfl rfl fun _ => rfl

theorem leads_colon :
    Leads ⟨.brackets, parens, ':' :: rest⟩ [.colon] ⟨.brackets, parens, rest⟩ :=
  .one rfl rfl fun _ => rfl

/-- A comma and the blank after it. -/
theorem leads_comma :
    Leads ⟨.brackets, parens, ',' :: ' ' :: rest⟩ [.comma] ⟨.brackets, parens, rest⟩ := by
  have comma : Leads ⟨.brackets, parens, ',' :: ' ' :: rest⟩ [.comma]
      ⟨.brackets, parens, ' ' :: rest⟩ := .one rfl rfl fun _ => rfl
  exact comma.trans (.blank rfl (.refl _))

theorem leads_callOpened :
    Leads ⟨.brackets, parens, '(' :: rest⟩ [.openParen] ⟨.brackets, parens, rest⟩ :=
  .one rfl rfl fun _ => rfl

theorem leads_callClosed :
    Leads ⟨.brackets, parens, ')' :: rest⟩ [.closeParen] ⟨.brackets, parens, rest⟩ :=
  .one rfl rfl fun _ => rfl

theorem leads_question :
    Leads ⟨.brackets, parens, '?' :: rest⟩ [.question] ⟨.filter, 0 :: parens, rest⟩ :=
  .one rfl rfl fun _ => rfl

theorem leads_filterClosed :
    Leads ⟨.filter, 0 :: parens, ']' :: rest⟩ [.closeBracket] ⟨.segment, parens, rest⟩ :=
  .one rfl rfl fun _ => rfl

variable {n : Nat}

theorem leads_openParen :
    Leads ⟨.filter, n :: parens, '(' :: rest⟩ [.openParen] ⟨.filter, (n + 1) :: parens, rest⟩ :=
  .one rfl rfl fun _ => rfl

theorem leads_closeParen :
    Leads ⟨.filter, (n + 1) :: parens, ')' :: rest⟩ [.closeParen] ⟨.filter, n :: parens, rest⟩ :=
  .one rfl rfl fun _ => rfl

theorem leads_anchor (a : Anchor) :
    Leads ⟨.filter, parens, a.text.toList ++ rest⟩ [Grammar.place a] ⟨.segment, parens, rest⟩ := by
  cases a <;> exact .one rfl rfl fun _ => rfl

/-- After a path, a filter goes on with what begins no segment. -/
theorem leads_pathEnd (h : opensSegment (rest.dropWhile isBlank) = false) :
    Leads ⟨.segment, n :: parens, rest⟩ [] ⟨.filter, n :: parens, rest⟩ := by
  apply Leads.handOver rfl
  intro _
  show segmentAction (n :: parens) (rest.dropWhile isBlank) = _
  generalize rest.dropWhile isBlank = text at h
  unfold segmentAction
  split
  case h_4 => rfl
  all_goals simp [opensSegment] at h

theorem leads_not :
    Leads ⟨.filter, parens, "not ".toList ++ rest⟩ [.not] ⟨.filter, parens, ' ' :: rest⟩ := by
  have hl : Leads ⟨.filter, parens, ['n', 'o', 't'] ++ ' ' :: rest⟩ [.not]
      ⟨.filter, parens, ' ' :: rest⟩ := .lexeme rfl rfl fun _ => rfl
  exact hl

theorem leads_compare (op : Comparison) :
    Leads ⟨.filter, parens, (" " ++ op.text ++ " ").toList ++ rest⟩ [.compare op]
      ⟨.filter, parens, ' ' :: rest⟩ := by
  cases op with
  | eq | gt | lt => exact .blank rfl (.one rfl rfl fun _ => rfl)
  | ne | ge | le => exact .blank rfl (.two rfl rfl fun _ => rfl)

/-! Strings, numbers and patterns -/

/-- Modes in which literals may stand. -/
def Mode.TakesLiterals (mode : Mode) : Prop := mode = .brackets ∨ mode = .filter

theorem Mode.TakesLiterals.isFinal {mode : Mode} (h : mode.TakesLiterals) :
    mode.isFinal = false := by
  rcases h with rfl | rfl <;> rfl

theorem stringToken_closed (next : Mode) (here : Position) (quote : Quote) {raw : List Char}
    (hq : Quotable quote.char raw) :
    stringToken next parens here (quote.char :: (raw ++ quote.char :: rest)) quote =
      .emit (.string quote (String.ofList raw)) (raw.length + 2) next parens := by
  have hne : quote.char ≠ '\\' := by cases quote <;> decide
  have hlen : 1 + raw.length + 1 = raw.length + 2 := by omega
  have hraw : lexeme (raw ++ quote.char :: rest) (raw.length + 2 - 2) = String.ofList raw := by
    rw [Nat.add_sub_cancel, lexeme, List.take_left]
  rw [stringToken, List.drop_succ_cons, List.drop_zero, string_closed 1 hq hne, hlen]
  simp only [ofResult, hraw]

theorem leads_string {mode : Mode} (hm : mode.TakesLiterals) (quote : Quote) {raw : List Char}
    (hq : Quotable quote.char raw) :
    Leads ⟨mode, parens, quote.char :: (raw ++ quote.char :: rest)⟩
      [.string quote (String.ofList raw)] ⟨mode, parens, rest⟩ := by
  have hblank : isBlank quote.char = false := by cases quote <;> decide
  have hl : Leads ⟨mode, parens, (quote.char :: (raw ++ [quote.char])) ++ rest⟩
      [.string quote (String.ofList raw)] ⟨mode, parens, rest⟩ := by
    apply Leads.lexeme hm.isFinal (by simp [hblank])
    intro here
    have htext : (quote.char :: (raw ++ [quote.char])) ++ rest =
        quote.char :: (raw ++ quote.char :: rest) := by simp
    have hlength : (quote.char :: (raw ++ [quote.char])).length = raw.length + 2 := by simp
    rw [htext, hlength, ← stringToken_closed mode here quote hq]
    rcases hm with rfl | rfl <;> cases quote <;> rfl
  simpa using hl

theorem fails_string {mode : Mode} (hm : mode.TakesLiterals) (quote : Quote) {raw : List Char}
    (hq : Quotable quote.char raw) : Fails ⟨mode, parens, quote.char :: raw⟩ := by
  have hblank : isBlank quote.char = false := by cases quote <;> decide
  have hdrop : (quote.char :: raw).dropWhile isBlank = quote.char :: raw := by simp [hblank]
  have hscan (here : Position) : stringToken mode parens here (quote.char :: raw) quote =
      .fail (.unclosedString here) (1 + raw.length) := by
    rw [stringToken, List.drop_succ_cons, List.drop_zero, string_unclosed 1 hq]
    rfl
  refine .of_action hm.isFinal fun here => ⟨.unclosedString here, 1 + raw.length, ?_⟩
  rw [hdrop, ← hscan here]
  rcases hm with rfl | rfl <;> cases quote <;> rfl

/-- The first character of a number or a word. -/
def isBare (c : Char) : Bool := c == '-' || isNameChar c

theorem bracketsAction_bare (here : Position) {c : Char} {text : List Char}
    (h : isBare c = true) : bracketsAction parens here (c :: text) =
      if c = '-' ∨ c.isDigit then numberToken .brackets parens (c :: text)
      else if isNameFirst c then
        if isCall (c :: text) (nameLength (c :: text)) then
          .emit (.function (lexeme (c :: text) (nameLength (c :: text)))) (nameLength (c :: text))
            .brackets parens
        else .fail (.unquotedName (lexeme (c :: text) (nameLength (c :: text))))
          (nameLength (c :: text))
      else .fail (.unexpectedInBrackets c) 0 := by
  unfold bracketsAction
  split
  case h_11 hc =>
    cases hc
    rfl
  all_goals
    rename_i hc
    cases hc
    try exact absurd h (by decide)

theorem filterAction_bare (here : Position) {c : Char} {text : List Char}
    (h : isBare c = true) : filterAction parens here (c :: text) =
      if c = '-' ∨ c.isDigit then numberToken .filter parens (c :: text)
      else if isNameFirst c then
        .emit (wordKind (lexeme (c :: text) (nameLength (c :: text)))
          (isCall (c :: text) (nameLength (c :: text)))) (nameLength (c :: text)) .filter parens
      else .fail (.unexpectedInFilter c) 0 := by
  unfold filterAction
  split
  case h_24 hc =>
    cases hc
    rfl
  all_goals
    rename_i hc
    cases hc
    try exact absurd h (by decide)

/-- In front of a number, the modes that take literals read it. -/
theorem action_number {mode : Mode} (hm : mode.TakesLiterals) (here : Position) {text : List Char}
    (h : beginsNumber text) : mode.action parens here text = numberToken mode parens text := by
  obtain ⟨c, hc, hbegins⟩ := h
  obtain ⟨more, rfl⟩ := List.head?_eq_some_iff.1 hc
  have hbare : isBare c = true := by
    rcases hbegins with rfl | hd
    · rfl
    · simp [isBare, isNameChar, hd]
  rcases hm with rfl | rfl
  · exact (bracketsAction_bare here hbare).trans (if_pos hbegins)
  · exact (filterAction_bare here hbare).trans (if_pos hbegins)

/-- The kind of the token that a number in the printed form makes. -/
def numberKind (text : List Char) : Kind :=
  match Scan.number text with
  | .ok (_, true) => .float (String.ofList text)
  | _ => .int (String.ofList text)

theorem spell_beginsNumber {negative : Bool} {whole fraction : List Char} {exponent : Option Int}
    (hw : Numeral.IsDigits whole) (hne : whole ≠ []) :
    beginsNumber (Numeral.spell negative whole fraction exponent ++ rest) := by
  obtain ⟨d, more, rfl⟩ := List.exists_cons_of_ne_nil hne
  cases negative with
  | true => exact ⟨'-', rfl, .inl rfl⟩
  | false => exact ⟨d, rfl, .inr (hw d (by simp))⟩

theorem numberKind_spell {negative : Bool} {whole fraction : List Char} {exponent : Option Int}
    (hw : Numeral.IsDigits whole) (hne : whole ≠ []) (hf : Numeral.IsDigits fraction) :
    numberKind (Numeral.spell negative whole fraction exponent) =
      if (!fraction.isEmpty || exponent.isSome) then
        .float (String.ofList (Numeral.spell negative whole fraction exponent))
      else .int (String.ofList (Numeral.spell negative whole fraction exponent)) := by
  have hscan : Scan.number (Numeral.spell negative whole fraction exponent ++ []) = _ :=
    Numeral.scan_spell hw hne hf (by simp [Numeral.Ends])
  rw [List.append_nil] at hscan
  rw [numberKind, hscan]
  cases (!fraction.isEmpty || exponent.isSome) <;> rfl

theorem leads_number {mode : Mode} (hm : mode.TakesLiterals) {negative : Bool}
    {whole fraction : List Char} {exponent : Option Int} (hw : Numeral.IsDigits whole)
    (hne : whole ≠ []) (hf : Numeral.IsDigits fraction) (hr : Numeral.Ends rest) :
    Leads ⟨mode, parens, Numeral.spell negative whole fraction exponent ++ rest⟩
      [numberKind (Numeral.spell negative whole fraction exponent)] ⟨mode, parens, rest⟩ := by
  have hbegins : beginsNumber (Numeral.spell negative whole fraction exponent ++ rest) :=
    spell_beginsNumber hw hne
  refine .lexeme hm.isFinal ?_ fun here => ?_
  · obtain ⟨c, hc, hbegins⟩ := hbegins
    obtain ⟨more, hmore⟩ := List.head?_eq_some_iff.1 hc
    have hblank : isBlank c = false := by
      rcases hbegins with rfl | hd
      · rfl
      · simp [isBlank]
        refine ⟨⟨⟨?_, ?_⟩, ?_⟩, ?_⟩ <;> rintro rfl <;> simp at hd
    rw [hmore, List.dropWhile_cons_of_neg (by simp [hblank])]
  · rw [action_number hm here hbegins, numberToken, Numeral.scan_spell hw hne hf hr,
      numberKind_spell hw hne hf]
    simp only [ofResult, lexeme, List.take_left]

/-! Names and words -/

/-- Names that need no quotes. -/
def IsName (name : List Char) : Prop :=
  ∃ c more, name = c :: more ∧ isNameFirst c = true ∧ ∀ d ∈ more, isNameChar d = true

theorem not_number_of_isNameFirst {c : Char} (h : isNameFirst c = true) :
    ¬ (c = '-' ∨ c.isDigit = true) := by
  rintro (rfl | hd)
  · exact absurd h (by decide)
  · obtain ⟨d, hlt, rfl⟩ := Index.exists_digitChar hd
    have : ∀ d < 10, isNameFirst (Nat.digitChar d) = false := by decide
    simp [this d hlt] at h

theorem not_blank_of_isNameFirst {c : Char} (h : isNameFirst c = true) : isBlank c = false := by
  cases hb : isBlank c with
  | false => rfl
  | true =>
    simp only [isBlank, Bool.or_eq_true, beq_iff_eq] at hb
    rcases hb with ((rfl | rfl) | rfl) | rfl <;> exact absurd h (by decide)

theorem IsName.isNameChar {name : List Char} (h : IsName name) :
    ∀ c ∈ name, Scan.isNameChar c = true := by
  obtain ⟨c, more, rfl, hc, hm⟩ := h
  intro d hd
  rcases List.mem_cons.1 hd with rfl | hd
  · simp [Scan.isNameChar, hc]
  · exact hm d hd

theorem nameLength_append {name : List Char} (h : IsName name)
    (hr : ∀ c ∈ rest.head?, isNameChar c = false) : nameLength (name ++ rest) = name.length := by
  rw [nameLength, takeWhile_eq h.isNameChar hr]

section
variable {here : Position} {text : List Char}

theorem exists_cons_of_isNameFirst (h : isNameFirst (peek text) = true) :
    ∃ c more, text = c :: more ∧ isNameFirst c = true ∧ isBare c = true := by
  cases text with
  | nil => exact absurd h (by decide)
  | cons c more =>
    have hc : isNameFirst c = true := h
    exact ⟨c, more, rfl, hc, by simp [isBare, isNameChar, hc]⟩

theorem bracketsAction_call (h : isNameFirst (peek text) = true)
    (hcall : isCall text (nameLength text) = true) :
    bracketsAction parens here text =
      .emit (.function (lexeme text (nameLength text))) (nameLength text) .brackets parens := by
  obtain ⟨c, more, rfl, hc, hbare⟩ := exists_cons_of_isNameFirst h
  rw [bracketsAction_bare here hbare, if_neg (not_number_of_isNameFirst hc), if_pos hc,
    if_pos hcall]

theorem filterAction_word (h : isNameFirst (peek text) = true) :
    filterAction parens here text =
      .emit (wordKind (lexeme text (nameLength text)) (isCall text (nameLength text)))
        (nameLength text) .filter parens := by
  obtain ⟨c, more, rfl, hc, hbare⟩ := exists_cons_of_isNameFirst h
  rw [filterAction_bare here hbare, if_neg (not_number_of_isNameFirst hc), if_pos hc]

end

theorem IsName.peek {name : List Char} (h : IsName name) (rest : List Char) :
    isNameFirst (Lexer.peek (name ++ rest)) = true ∧
      (name ++ rest).dropWhile isBlank = name ++ rest := by
  obtain ⟨c, more, rfl, hc, -⟩ := h
  exact ⟨hc, by simp [not_blank_of_isNameFirst hc]⟩

theorem leads_function {name : List Char} (h : IsName name) :
    Leads ⟨.brackets, parens, name ++ '(' :: rest⟩ [.function (String.ofList name)]
      ⟨.brackets, parens, '(' :: rest⟩ := by
  have hlen : nameLength (name ++ '(' :: rest) = name.length :=
    nameLength_append h (by simp; decide)
  have hcall : isCall (name ++ '(' :: rest) (nameLength (name ++ '(' :: rest)) = true := by
    simp [isCall, hlen]
  have hname : lexeme (name ++ '(' :: rest) name.length = String.ofList name := by
    rw [lexeme, List.take_left]
  obtain ⟨hfirst, hblank⟩ := h.peek ('(' :: rest)
  apply Leads.lexeme rfl hblank
  intro here
  rw [Mode.action, bracketsAction_call hfirst hcall, hlen, hname]

/-- A word of a filter, in front of what does not go on with it. -/
theorem leads_word {word : List Char} (h : IsName word)
    (hr : ∀ c ∈ rest.head?, isNameChar c = false) :
    Leads ⟨.filter, parens, word ++ rest⟩
      [wordKind (String.ofList word) (isCall (word ++ rest) word.length)]
      ⟨.filter, parens, rest⟩ := by
  have hlen := nameLength_append h hr
  have hname : lexeme (word ++ rest) word.length = String.ofList word := by
    rw [lexeme, List.take_left]
  obtain ⟨hfirst, hblank⟩ := h.peek rest
  apply Leads.lexeme rfl hblank
  intro here
  rw [Mode.action, filterAction_word hfirst, hlen, hname]

theorem leads_connective (op : Connective) :
    Leads ⟨.filter, parens, (" " ++ op.text ++ " ").toList ++ rest⟩
      [Grammar.connective op] ⟨.filter, parens, ' ' :: rest⟩ := by
  cases op with
  | and =>
    have hl : Leads ⟨.filter, parens, ['a', 'n', 'd'] ++ ' ' :: rest⟩ [.and]
      ⟨.filter, parens, ' ' :: rest⟩ := .lexeme rfl rfl fun _ => rfl
    exact .blank rfl hl
  | or =>
    have hl : Leads ⟨.filter, parens, ['o', 'r'] ++ ' ' :: rest⟩ [.or]
      ⟨.filter, parens, ' ' :: rest⟩ := .lexeme rfl rfl fun _ => rfl
    exact .blank rfl hl

/-! Patterns -/

theorem leads_tilde :
    Leads ⟨.filter, parens, " =~ ".toList ++ rest⟩ [.tilde] ⟨.regex, parens, ' ' :: rest⟩ :=
  .blank rfl (.two rfl rfl fun _ => rfl)

theorem regexToken_closed (here : Position) {raw flags : List Char} (hs : Slashless raw)
    (hf : (flags ++ rest).takeWhile isFlag = flags) :
    regexToken parens here (('/' :: (raw ++ '/' :: flags)) ++ rest) =
      .emit (.regex (String.ofList raw) (String.ofList flags))
        ('/' :: (raw ++ '/' :: flags)).length .filter parens := by
  have htext : ('/' :: (raw ++ '/' :: flags)) ++ rest = '/' :: (raw ++ '/' :: (flags ++ rest)) := by
    simp
  have hdrop : ('/' :: (raw ++ '/' :: (flags ++ rest))).drop (1 + raw.length + 1) =
      flags ++ rest := by
    rw [Nat.add_comm 1, Nat.add_assoc, List.drop_succ_cons, List.drop_append]
    simp
  have hraw : lexeme (raw ++ '/' :: (flags ++ rest)) (1 + raw.length + 1 - 2) =
      String.ofList raw := by
    have : 1 + raw.length + 1 - 2 = raw.length := by omega
    rw [this, lexeme, List.take_left]
  rw [htext, regexToken, List.drop_succ_cons, List.drop_zero, regex_closed 1 hs]
  simp only [ofResult, hdrop, hf, hraw]
  congr 1
  simp
  omega

theorem leads_regex {raw flags : List Char} (hs : Slashless raw)
    (hf : ∀ c ∈ flags, isFlag c = true) (hr : ∀ c ∈ rest.head?, isFlag c = false) :
    Leads ⟨.regex, parens, ('/' :: (raw ++ '/' :: flags)) ++ rest⟩
      [.regex (String.ofList raw) (String.ofList flags)] ⟨.filter, parens, rest⟩ := by
  apply Leads.lexeme rfl rfl
  intro here
  exact regexToken_closed here hs (takeWhile_eq hf hr)

end

end PathQuery.Lexer
