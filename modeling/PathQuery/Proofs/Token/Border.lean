import PathQuery.Proofs.Number.Scanned
import PathQuery.Proofs.Token.Lexemes

/-! Where tokens end. What a token is shows in its own characters and the one behind them, and of
that one it only matters that it does not go on with the token. -/
namespace PathQuery

namespace Scan

/-- What may follow any token without being a part of it: a blank, or the bracket of a selection. -/
def isSeparator (c : Char) : Bool := isBlank c || c == '['

theorem isSeparator_iff {c : Char} :
    isSeparator c = true ↔ c = ' ' ∨ c = '\n' ∨ c = '\r' ∨ c = '\t' ∨ c = '[' := by
  simp [isSeparator, isBlank, or_assoc]

end Scan

namespace Lexer
open Token Scan

/-- Behind a token of this kind `rest'` may stand in the place of `rest`: it begins in the same way
or, unless the token calls a function, with a separator. -/
def Borders (kind : Kind) (rest rest' : List Char) : Prop :=
  rest'.head? = rest.head? ∨
    (∀ name, kind ≠ .function name) ∧ ∃ c, rest'.head? = some c ∧ isSeparator c = true

namespace Borders
variable {kind : Kind} {rest rest' : List Char}

theorem refl (kind : Kind) (rest : List Char) : Borders kind rest rest := .inl rfl

theorem append (h : Borders kind rest rest') (front : List Char) :
    Borders kind (front ++ rest) (front ++ rest') := by
  cases front with
  | nil => exact h
  | cons c front => exact .inl rfl

/-- A run of characters that ends before `rest` ends before `rest'`. -/
theorem stops {p : Char → Bool} (h : Borders kind rest rest')
    (hp : ∀ c, isSeparator c = true → p c = false) (hr : ∀ c ∈ rest.head?, p c = false) :
    ∀ c ∈ rest'.head?, p c = false := by
  intro c hc
  rcases h with h | ⟨-, d, hd, hsep⟩
  · exact hr c (h ▸ hc)
  · rw [hd] at hc
    cases hc
    exact hp _ hsep

theorem head?_ne {c : Char} (h : Borders kind rest rest') (hc : isSeparator c = false)
    (hr : rest.head? ≠ some c) : rest'.head? ≠ some c := by
  rcases h with h | ⟨-, d, hd, hsep⟩
  · rwa [h]
  · rintro hrest
    rw [hrest] at hd
    cases hd
    simp [hc] at hsep

end Borders

/-! Runs, numbers, strings and patterns -/

section
variable {kind : Kind} {front rest rest' : List Char}

/-- A run that is as long as `front` is `front`, and what is behind it does not go on with it. -/
theorem takeWhile_spec {p : Char → Bool} (h : ((front ++ rest).takeWhile p).length = front.length) :
    (∀ c ∈ front, p c = true) ∧ ∀ c ∈ rest.head?, p c = false := by
  have htake : (front ++ rest).takeWhile p = front := by
    rw [← take_takeWhile, h, List.take_left]
  have hf : ∀ c ∈ front, p c = true := by
    intro c hc
    rw [← htake] at hc
    exact List.mem_takeWhile_imp hc
  refine ⟨hf, ?_⟩
  rw [List.takeWhile_append_of_pos hf, List.length_append] at h
  intro c hc
  obtain ⟨more, rfl⟩ := List.head?_eq_some_iff.1 hc
  by_contra hp
  have hp : p c = true := by simpa using hp
  simp [hp] at h

theorem takeWhile_border {p : Char → Bool} (hp : ∀ c, isSeparator c = true → p c = false)
    (hb : Borders kind rest rest')
    (h : ((front ++ rest).takeWhile p).length = front.length) :
    (front ++ rest').takeWhile p = front := by
  obtain ⟨hf, hr⟩ := takeWhile_spec h
  exact takeWhile_eq hf (hb.stops hp hr)

theorem not_digit_of_separator (c : Char) (h : isSeparator c = true) : c.isDigit = false := by
  rcases isSeparator_iff.1 h with rfl | rfl | rfl | rfl | rfl <;> rfl

theorem not_nameChar_of_separator (c : Char) (h : isSeparator c = true) :
    isNameChar c = false := by
  rcases isSeparator_iff.1 h with rfl | rfl | rfl | rfl | rfl <;> decide

theorem not_flag_of_separator (c : Char) (h : isSeparator c = true) : isFlag c = false := by
  rcases isSeparator_iff.1 h with rfl | rfl | rfl | rfl | rfl <;> decide

theorem digits_border (hb : Borders kind rest rest')
    (h : digits (front ++ rest) = front.length) : digits (front ++ rest') = front.length := by
  rw [digits, takeWhile_border not_digit_of_separator hb h]

theorem whole_border (hb : Borders kind rest rest') (hne : front ≠ [])
    (h : whole (front ++ rest) = .ok front.length) :
    whole (front ++ rest') = .ok front.length := by
  obtain ⟨c, front, rfl⟩ := List.exists_cons_of_ne_nil hne
  by_cases hc : c = '-'
  · subst hc
    simp only [whole, List.cons_append, List.length_cons] at h ⊢
    split at h
    · cases h
    next hd =>
      have hlen : digits (front ++ rest) = front.length := by
        simpa using h
      rw [hlen] at hd
      rw [digits_border hb hlen, if_neg hd]
  · have hwhole (rest : List Char) :
        whole (c :: front ++ rest) = .ok (digits (c :: front ++ rest)) := by
      unfold whole
      split
      next heq => exact absurd (List.cons.inj heq).1 hc
      · rfl
    rw [hwhole] at h ⊢
    rw [digits_border hb (Except.ok.inj h)]

theorem fraction_of_ne (h : rest.head? ≠ some '.') : fraction rest = .ok 0 := by
  unfold fraction
  split
  next => simp at h
  · rfl

theorem fraction_border (hb : Borders kind rest rest')
    (h : fraction (front ++ rest) = .ok front.length) :
    fraction (front ++ rest') = .ok front.length := by
  unfold fraction at h
  split at h
  next more htext =>
    split at h
    · cases h
    next hd =>
      cases front with
      | nil => simp at h
      | cons c front =>
        obtain ⟨rfl, hmore⟩ := List.cons.inj htext
        obtain rfl : more = front ++ rest := hmore.symm
        have hlen : digits (front ++ rest) = front.length := by simpa using h
        rw [hlen] at hd
        simp only [fraction, List.cons_append, digits_border hb hlen, if_neg hd, List.length_cons]
  next hdot =>
    have hnil : front = [] := by
      cases front with
      | nil => rfl
      | cons c front => simp at h
    subst hnil
    refine fraction_of_ne (hb.head?_ne (by decide) fun hr => ?_)
    obtain ⟨more, rfl⟩ := List.head?_eq_some_iff.1 hr
    exact hdot more rfl

theorem exponent_of_ne (he : rest.head? ≠ some 'e') (hE : rest.head? ≠ some 'E') :
    exponent rest = .ok 0 := by
  unfold exponent
  split
  next => simp at he
  next => simp at hE
  · rfl

theorem exponent_border (hb : Borders kind rest rest')
    (h : exponent (front ++ rest) = .ok front.length) :
    exponent (front ++ rest') = .ok front.length := by
  cases front with
  | nil =>
    have hne {c : Char} (hc : c = 'e' ∨ c = 'E') : rest.head? ≠ some c := by
      intro hr
      obtain ⟨more, rfl⟩ := List.head?_eq_some_iff.1 hr
      rw [List.nil_append, exponent_cons hc] at h
      split at h <;> simp at h
    exact exponent_of_ne (hb.head?_ne (by decide) (hne (.inl rfl)))
      (hb.head?_ne (by decide) (hne (.inr rfl)))
  | cons c front =>
    by_cases hc : c = 'e' ∨ c = 'E'
    · rw [List.cons_append, exponent_cons hc, List.length_cons] at h ⊢
      split at h
      · cases h
      next hd =>
        simp only [Except.ok.injEq, Nat.add_right_cancel_iff] at h
        cases front with
        | nil =>
          rw [List.length_nil] at h
          omega
        | cons d more =>
          have hsign : signLength (d :: more ++ rest') = signLength (d :: more ++ rest) :=
            signLength_cons d _ _
          rw [hsign]
          generalize signLength (d :: more ++ rest) = sign at h hd ⊢
          rw [List.drop_append_of_le_length (by omega)] at h hd ⊢
          have hlen : digits ((d :: more).drop sign ++ rest) = ((d :: more).drop sign).length := by
            rw [List.length_drop]
            omega
          rw [hlen] at hd
          rw [digits_border hb hlen, if_neg hd, ← h, hlen]
    · have hzero : exponent (c :: front ++ rest) = .ok 0 := by
        apply exponent_of_ne <;> simp <;> tauto
      rw [hzero] at h
      simp at h

/-- A number is the same number in front of whatever borders it. -/
theorem number_border {text : List Char} {length : Nat} {isFloat : Bool}
    (hbegins : beginsNumber text) (h : number text = .ok (length, isFloat)) :
    ∃ front rest, text = front ++ rest ∧ front.length = length ∧
      ∀ {kind rest'}, Borders kind rest rest' →
        number (front ++ rest') = .ok (length, isFloat) := by
  obtain ⟨a, b, c, ha, hf, he, hlen, rfl⟩ := number_eq_ok.1 h
  obtain ⟨negative, ds, afterWhole, rfl, -, hne, rfl⟩ := eq_of_whole ha hbegins
  have hne : Numeral.signText negative ++ ds ≠ [] := by simp [hne]
  generalize Numeral.signText negative ++ ds = wholePart at ha hf he hlen hne ⊢
  rw [List.drop_left] at hf
  obtain ⟨fs, afterFraction, rfl, -, rfl⟩ := eq_of_fraction hf
  generalize Numeral.fractionText fs = fractionPart at ha hf he hlen ⊢
  rw [← List.drop_drop, List.drop_left, List.drop_left] at he
  obtain ⟨exponentPart, rest, -, rfl, rfl, -⟩ := eq_of_exponent he
  refine ⟨wholePart ++ (fractionPart ++ exponentPart), rest, by simp, by simp [hlen]; omega, ?_⟩
  intro kind rest' hb
  simp only [List.append_assoc]
  refine number_eq_ok.2 ⟨_, _, _, ?_, ?_, ?_, hlen, rfl⟩
  · exact whole_border ((hb.append exponentPart).append fractionPart) hne ha
  · rw [List.drop_left]
    exact fraction_border (hb.append exponentPart) hf
  · rw [← List.drop_drop, List.drop_left, List.drop_left]
    exact exponent_border hb he

theorem exists_of_string {quote : Char} {opened : Position} {read length : Nat}
    {text : List Char} (h : Scan.string quote opened read text = .ok length) :
    ∃ raw rest, Quotable quote raw ∧ text = raw ++ quote :: rest ∧
      length = read + raw.length + 1 := by
  fun_induction Scan.string quote opened read text with
  | case1 => cases h
  | case2 read c rest hc ih =>
    obtain ⟨raw, rest, hq, rfl, rfl⟩ := ih h
    exact ⟨'\\' :: c :: raw, rest, .pair hc hq, rfl, by simp; omega⟩
  | case3 => cases h
  | case4 => cases h
  | case5 read rest =>
    cases h
    exact ⟨[], rest, .nil, rfl, rfl⟩
  | case6 read c rest hpair hlast hc ih =>
    obtain ⟨raw, rest, hq, rfl, rfl⟩ := ih h
    refine ⟨c :: raw, rest, .plain ?_ hc hq, rfl, by simp; omega⟩
    rintro rfl
    cases raw with
    | nil => exact hpair _ _ rfl rfl
    | cons d raw => exact hpair d _ rfl rfl

theorem exists_slashless_of_regex {opened : Position} {read length : Nat} {text : List Char}
    (h : Scan.regex opened read text = .ok length) :
    ∃ raw rest, Slashless raw ∧ text = raw ++ '/' :: rest ∧ length = read + raw.length + 1 := by
  fun_induction Scan.regex opened read text with
  | case1 => cases h
  | case2 => cases h
  | case3 read c rest ih =>
    obtain ⟨raw, rest, hs, rfl, rfl⟩ := ih h
    exact ⟨'\\' :: c :: raw, rest, .pair hs, rfl, by simp; omega⟩
  | case4 read rest =>
    cases h
    exact ⟨[], rest, .nil, rfl, rfl⟩
  | case5 read c rest hend hpair hslash ih =>
    obtain ⟨raw, rest, hs, rfl, rfl⟩ := ih h
    refine ⟨c :: raw, rest, .plain ?_ hslash hs, rfl, by simp; omega⟩
    rintro rfl
    cases raw with
    | nil => exact hpair _ _ rfl rfl
    | cons d raw => exact hpair d _ rfl rfl

end

/-! Actions -/

/-- A token stays what it is in front of whatever borders it, and a mode hands over whatever stands
behind the first character. -/
def Action.Lasts (mode : Mode) (parens : List Nat) (text : List Char) (a : Action) : Prop :=
  match a with
  | .emit kind length next _ =>
    next = .done ∧ (∀ here, mode.action parens here text = a) ∨
      ∃ front rest, text = front ++ rest ∧ front.length = length ∧ front ≠ [] ∧
        ∀ rest', Borders kind rest rest' → ∀ here, mode.action parens here (front ++ rest') = a
  | .handOver _ => ∀ text', text'.head? = text.head? → ∀ here, mode.action parens here text' = a
  | .fail .. => True

namespace Action.Lasts
variable {mode next : Mode} {parens parens' : List Nat} {kind : Kind} {c d : Char}
  {text rest : List Char}

theorem symbol (h : ∀ rest here, mode.action parens here (c :: rest) = .emit kind 1 next parens') :
    Lasts mode parens (c :: rest) (.emit kind 1 next parens') :=
  .inr ⟨[c], rest, rfl, rfl, by simp, fun rest' _ here => h rest' here⟩

theorem symbol₂ (h : ∀ rest here,
      mode.action parens here (c :: d :: rest) = .emit kind 2 next parens') :
    Lasts mode parens (c :: d :: rest) (.emit kind 2 next parens') :=
  .inr ⟨[c, d], rest, rfl, rfl, by simp, fun rest' _ here => h rest' here⟩

theorem head?_ne (h : ∀ more, rest ≠ c :: more) : rest.head? ≠ some c := by
  intro hc
  obtain ⟨more, rfl⟩ := List.head?_eq_some_iff.1 hc
  exact h more rfl

/-- A symbol that would be another one in front of some characters. -/
theorem symbolBut {others : List Char} (hsep : ∀ d ∈ others, isSeparator d = false)
    (hr : ∀ d ∈ others, rest.head? ≠ some d)
    (h : ∀ rest, (∀ d ∈ others, rest.head? ≠ some d) → ∀ here,
      mode.action parens here (c :: rest) = .emit kind 1 next parens') :
    Lasts mode parens (c :: rest) (.emit kind 1 next parens') :=
  .inr ⟨[c], rest, rfl, rfl, by simp, fun rest' hb here =>
    h rest' (fun d hd => hb.head?_ne (hsep d hd) (hr d hd)) here⟩

/-- What a mode sees of a word at the front of two texts is the same. -/
structure SameWord (kind : Kind) (text text' : List Char) : Prop where
  first : isNameFirst (peek text') = true
  length : nameLength text' = nameLength text
  lexeme : Lexer.lexeme text' (nameLength text) = Lexer.lexeme text (nameLength text)
  call : isCall text' (nameLength text) = isCall text (nameLength text) ∨
    (∀ name, kind ≠ .function name) ∧ isCall text' (nameLength text) = false

theorem SameWord.isCall {name : String} {text' : List Char}
    (h : SameWord (.function name) text text') (hcall : isCall text (nameLength text) = true) :
    Lexer.isCall text' (nameLength text) = true := by
  rcases h.call with h | ⟨hk, -⟩
  · rw [h, hcall]
  · exact absurd rfl (hk _)

theorem word (hn : isNameFirst (peek text) = true)
    (h : ∀ text', SameWord kind text text' → ∀ here,
      mode.action parens here text' = .emit kind (nameLength text) next parens') :
    Lasts mode parens text (.emit kind (nameLength text) next parens') := by
  obtain ⟨front, rest, rfl, hlen⟩ : ∃ front rest, text = front ++ rest ∧
      nameLength text = front.length :=
    ⟨text.take (nameLength text), text.drop (nameLength text), by simp, by
      rw [nameLength, take_takeWhile]⟩
  have hne : front ≠ [] := by
    have hpos := (nameLength_pos hn).1
    rintro rfl
    rw [hlen] at hpos
    simp at hpos
  refine .inr ⟨front, rest, rfl, hlen.symm, hne, fun rest' hb here => h _ ?_ here⟩
  have hlen' : nameLength (front ++ rest') = front.length := by
    rw [nameLength, takeWhile_border not_nameChar_of_separator hb hlen]
  refine ⟨?_, hlen'.trans hlen.symm, ?_, ?_⟩
  · obtain ⟨c, more, rfl⟩ := List.exists_cons_of_ne_nil hne
    exact hn
  · rw [hlen, Lexer.lexeme, Lexer.lexeme, List.take_left, List.take_left]
  · rw [hlen]
    simp only [isCall, List.drop_left]
    rcases hb with hb | ⟨hk, c, hc, hsep⟩
    · exact .inl (by rw [hb])
    · refine .inr ⟨hk, ?_⟩
      rw [hc]
      rcases isSeparator_iff.1 hsep with rfl | rfl | rfl | rfl | rfl <;> rfl

theorem number (hbegins : beginsNumber text)
    (h : ∀ text here, beginsNumber text →
      mode.action parens here text = numberToken mode parens text) :
    Lasts mode parens text (numberToken mode parens text) := by
  unfold numberToken ofResult
  split
  next r hr =>
    obtain ⟨length, isFloat⟩ := r
    obtain ⟨front, rest, rfl, rfl, hlast⟩ := number_border hbegins hr
    have hne : front ≠ [] := by
      rintro rfl
      obtain ⟨a, hle, hw, -⟩ := whole_of_number hr
      have hpos := whole_pos hw hbegins
      simp at hle
      omega
    refine .inr ⟨front, rest, rfl, rfl, hne, fun rest' hb here => ?_⟩
    have hbegins' : beginsNumber (front ++ rest') := by
      obtain ⟨c, more, rfl⟩ := List.exists_cons_of_ne_nil hne
      exact hbegins
    rw [h _ here hbegins', numberToken, hlast hb]
    simp only [ofResult, Lexer.lexeme, List.take_left]
  · trivial

theorem string (quote : Quote)
    (h : ∀ text here, mode.action parens here (quote.char :: text) =
      stringToken mode parens here (quote.char :: text) quote) (here : Position) :
    Lasts mode parens (quote.char :: text)
      (stringToken mode parens here (quote.char :: text) quote) := by
  cases hs : Scan.string quote.char here 1 text with
  | error e =>
    rw [stringToken, List.drop_succ_cons, List.drop_zero, hs]
    trivial
  | ok length =>
    obtain ⟨raw, rest, hq, rfl, -⟩ := exists_of_string hs
    rw [stringToken_closed mode here quote hq]
    refine .inr ⟨quote.char :: (raw ++ [quote.char]), rest, by simp, by simp, by simp, ?_⟩
    intro rest' _ here
    have htext : quote.char :: (raw ++ [quote.char]) ++ rest' =
        quote.char :: (raw ++ quote.char :: rest') := by simp
    rw [htext, h, stringToken_closed mode here quote hq]

theorem pattern
    (h : ∀ text here, mode.action parens here ('/' :: text) = regexToken parens here ('/' :: text))
    (here : Position) : Lasts mode parens ('/' :: text) (regexToken parens here ('/' :: text)) := by
  cases hs : Scan.regex here 1 text with
  | error e =>
    rw [regexToken, List.drop_succ_cons, List.drop_zero, hs]
    trivial
  | ok length =>
    obtain ⟨raw, rest, hslash, rfl, -⟩ := exists_slashless_of_regex hs
    obtain ⟨flags, rest, rfl, hlen⟩ : ∃ flags more, rest = flags ++ more ∧
        (rest.takeWhile isFlag).length = flags.length :=
      ⟨rest.takeWhile isFlag, rest.dropWhile isFlag, List.takeWhile_append_dropWhile.symm, rfl⟩
    obtain ⟨hf, hr⟩ := takeWhile_spec hlen
    have htext (rest : List Char) : '/' :: (raw ++ '/' :: (flags ++ rest)) =
        '/' :: (raw ++ '/' :: flags) ++ rest := by simp
    rw [htext, regexToken_closed here hslash (takeWhile_eq hf hr)]
    refine .inr ⟨_, rest, rfl, rfl, by simp, ?_⟩
    intro rest' hb here
    have hflags := takeWhile_border not_flag_of_separator hb hlen
    rw [List.cons_append, h]
    exact regexToken_closed here hslash hflags

end Action.Lasts

/-! Modes -/

section
variable {parens : List Nat} {here : Position} {text : List Char}

theorem rootAction_lasts :
    (rootAction parens text).Lasts .root parens text := by
  unfold rootAction
  split
  · exact .symbol fun _ _ => rfl
  · trivial

theorem segmentAction_dot (h : ∀ d ∈ ['.'], text.head? ≠ some d) :
    segmentAction parens ('.' :: text) = .emit .dot 1 .shorthand parens := by
  unfold segmentAction
  split
  next heq =>
    obtain ⟨-, rfl⟩ := List.cons.inj heq
    exact absurd rfl (h '.' (by simp))
  · rfl
  next heq => cases heq
  next hdot _ => exact absurd rfl (hdot text)

theorem segmentAction_handOver (ho : opensSegment text = false) (hp : parens ≠ []) :
    segmentAction parens text = .handOver .filter := by
  unfold segmentAction
  split
  case h_4 => rw [if_pos hp]
  all_goals simp [opensSegment] at ho

theorem segmentAction_lasts :
    (segmentAction parens text).Lasts .segment parens text := by
  unfold segmentAction
  split
  · exact .symbol₂ fun _ _ => rfl
  next more hdots =>
    exact .symbolBut (List.forall_mem_singleton.2 rfl)
      (List.forall_mem_singleton.2 (Action.Lasts.head?_ne hdots)) fun rest hrest _ =>
        segmentAction_dot hrest
  · exact .symbol fun _ _ => rfl
  next hdots hdot hbracket =>
    split
    next hp =>
      intro text' hhead _
      have ho : opensSegment text = false := opensSegment_eq_false hdot hbracket
      have ho' : opensSegment text' = false := by rwa [opensSegment, hhead]
      exact segmentAction_handOver ho' hp
    next hp =>
      split
      · exact .inl ⟨rfl, fun _ => if_neg hp⟩
      · trivial

theorem descendantAction_name (h : isNameFirst (peek text) = true) :
    descendantAction parens text =
      .emit (.name (lexeme text (nameLength text))) (nameLength text) .segment parens := by
  unfold descendantAction
  split
  · exact absurd h (show ¬ isNameFirst '*' = true by decide)
  · exact absurd h (show ¬ isNameFirst '[' = true by decide)
  · rw [if_pos h]

theorem descendantAction_lasts :
    (descendantAction parens text).Lasts .descendant parens text := by
  unfold descendantAction
  split
  · exact .symbol fun _ _ => rfl
  · exact .symbol fun _ _ => rfl
  · split
    next hn =>
      refine .word hn fun text' hw _ => ?_
      rw [Mode.action, descendantAction_name hw.first, hw.length, hw.lexeme]
    · trivial

theorem shorthandAction_name (h : isNameFirst (peek text) = true) :
    shorthandAction parens text =
      if isCall text (nameLength text) then
        .emit (.function (lexeme text (nameLength text))) (nameLength text) .arguments parens
      else .emit (.name (lexeme text (nameLength text))) (nameLength text) .segment parens := by
  unfold shorthandAction
  split
  · exact absurd h (show ¬ isNameFirst '*' = true by decide)
  · dsimp only
    rw [if_pos h]

theorem shorthandAction_lasts :
    (shorthandAction parens text).Lasts .shorthand parens text := by
  unfold shorthandAction
  split
  · exact .symbol fun _ _ => rfl
  · dsimp only
    split
    next hn =>
      split
      next hcall =>
        refine .word hn fun text' hw _ => ?_
        rw [Mode.action, shorthandAction_name hw.first, hw.length, hw.lexeme,
          if_pos (hw.isCall hcall)]
      next hcall =>
        refine .word hn fun text' hw _ => ?_
        have hcall' : ¬ isCall text' (nameLength text) = true := by
          rcases hw.call with h | ⟨-, h⟩
          · rwa [h]
          · simp [h]
        rw [Mode.action, shorthandAction_name hw.first, hw.length, hw.lexeme, if_neg hcall']
    · trivial

theorem bracketsAction_lasts :
    (bracketsAction parens here text).Lasts .brackets parens text := by
  unfold bracketsAction
  split
  case h_1 => trivial
  case h_9 => exact .string .single (fun _ _ => rfl) here
  case h_10 => exact .string .double (fun _ _ => rfl) here
  case h_11 c rest _ _ _ _ _ _ _ _ _ =>
    dsimp only
    split
    next hc => exact .number ⟨c, rfl, hc⟩ fun _ here => action_number (.inl rfl) here
    · split
      next hn =>
        split
        next hcall =>
          refine .word hn fun text' hw here => ?_
          have hcall' : isCall text' (nameLength text') = true := by
            rw [hw.length]
            exact hw.isCall hcall
          rw [Mode.action, bracketsAction_call hw.first hcall', hw.length, hw.lexeme]
        · trivial
      · trivial
  all_goals exact .symbol fun _ _ => rfl

theorem argumentsAction_number (here : Position) (h : beginsNumber text) :
    argumentsAction parens here text = numberToken .arguments parens text := by
  obtain ⟨c, hc, hbegins⟩ := h
  obtain ⟨more, rfl⟩ := List.head?_eq_some_iff.1 hc
  unfold argumentsAction
  split
  case h_7 heq =>
    cases heq
    rw [if_pos hbegins]
  all_goals
    rename_i hc
    cases hc
    try exact absurd hbegins (by decide)

theorem argumentsAction_lasts :
    (argumentsAction parens here text).Lasts .arguments parens text := by
  unfold argumentsAction
  split
  case h_1 => trivial
  case h_5 => exact .string .single (fun _ _ => rfl) here
  case h_6 => exact .string .double (fun _ _ => rfl) here
  case h_7 c rest _ _ _ _ _ =>
    split
    next hc => exact .number ⟨c, rfl, hc⟩ fun _ here => argumentsAction_number here
    · trivial
  all_goals exact .symbol fun _ _ => rfl

theorem wordKind_congr {word : String} {call call' : Bool}
    (h : call' = call ∨ (∀ name, wordKind word call ≠ .function name) ∧ call' = false) :
    wordKind word call' = wordKind word call := by
  rcases h with rfl | ⟨hk, rfl⟩
  · rfl
  · cases call with
    | false => rfl
    | true =>
      have hword := hk word
      unfold wordKind at hword ⊢
      split <;> simp_all

/-- A symbol that goes on with an equals sign or not. -/
theorem filterAction_not (h : ∀ d ∈ ['='], text.head? ≠ some d) :
    filterAction parens here ('!' :: text) = .emit .not 1 .filter parens := by
  cases text with
  | nil => rfl
  | cons d more =>
    have hd : d ≠ '=' := by simpa using h
    simp [filterAction, hd]

theorem filterAction_lt (h : ∀ d ∈ ['='], text.head? ≠ some d) :
    filterAction parens here ('<' :: text) = .emit (.compare .lt) 1 .filter parens := by
  cases text with
  | nil => rfl
  | cons d more =>
    have hd : d ≠ '=' := by simpa using h
    simp [filterAction, hd]

theorem filterAction_gt (h : ∀ d ∈ ['='], text.head? ≠ some d) :
    filterAction parens here ('>' :: text) = .emit (.compare .gt) 1 .filter parens := by
  cases text with
  | nil => rfl
  | cons d more =>
    have hd : d ≠ '=' := by simpa using h
    simp [filterAction, hd]

theorem filterAction_eq (h : ∀ d ∈ ['~', '='], text.head? ≠ some d) :
    filterAction parens here ('=' :: text) = .emit (.compare .eq) 1 .filter parens := by
  cases text with
  | nil => rfl
  | cons d more =>
    have hd : d ≠ '~' ∧ d ≠ '=' := by simpa using h
    simp [filterAction, hd]

theorem filterAction_lasts :
    (filterAction parens here text).Lasts .filter parens text := by
  unfold filterAction
  split
  case h_1 | h_21 | h_23 => trivial
  case h_2 rest =>
    split
    · trivial
    next hp => exact .symbol fun rest _ => if_neg hp
  case h_3 => exact .symbol fun _ _ => rfl
  case h_4 rest =>
    split
    · exact .symbol fun _ _ => rfl
    · trivial
  case h_5 => exact .string .single (fun _ _ => rfl) here
  case h_6 => exact .string .double (fun _ _ => rfl) here
  case h_7 | h_8 => exact .symbol fun _ _ => rfl
  case h_9 | h_10 =>
    intro text' hhead _
    obtain ⟨more, rfl⟩ := List.head?_eq_some_iff.1 hhead
    rfl
  case h_11 | h_13 | h_14 | h_16 | h_18 | h_20 | h_22 => exact .symbol₂ fun _ _ => rfl
  case h_12 hne =>
    exact .symbolBut (List.forall_mem_singleton.2 rfl)
      (List.forall_mem_singleton.2 (Action.Lasts.head?_ne hne)) fun rest h _ => filterAction_not h
  case h_15 htilde heq =>
    exact .symbolBut (List.forall_mem_cons.2 ⟨rfl, List.forall_mem_singleton.2 rfl⟩)
      (List.forall_mem_cons.2 ⟨Action.Lasts.head?_ne htilde,
        List.forall_mem_singleton.2 (Action.Lasts.head?_ne heq)⟩) fun rest h _ => filterAction_eq h
  case h_17 hle =>
    exact .symbolBut (List.forall_mem_singleton.2 rfl)
      (List.forall_mem_singleton.2 (Action.Lasts.head?_ne hle)) fun rest h _ => filterAction_lt h
  case h_19 hge =>
    exact .symbolBut (List.forall_mem_singleton.2 rfl)
      (List.forall_mem_singleton.2 (Action.Lasts.head?_ne hge)) fun rest h _ => filterAction_gt h
  case h_24 c rest _ _ _ _ _ _ _ _ _ _ _ _ _ _ _ _ _ _ _ _ _ _ =>
    dsimp only
    split
    next hc => exact .number ⟨c, rfl, hc⟩ fun _ here => action_number (.inr rfl) here
    · split
      next hn =>
        refine .word hn fun text' hw here => ?_
        rw [Mode.action, filterAction_word hw.first, hw.length, hw.lexeme, wordKind_congr hw.call]
      · trivial

theorem regexAction_lasts :
    (regexAction parens here text).Lasts .regex parens text := by
  unfold regexAction
  split
  · exact .pattern (fun _ _ => rfl) here
  · trivial

end

theorem Mode.action_lasts {mode : Mode} (hf : mode.isFinal = false) (parens : List Nat)
    (here : Position) (text : List Char) :
    (mode.action parens here text).Lasts mode parens text := by
  cases mode with
  | root => exact rootAction_lasts
  | segment => exact segmentAction_lasts
  | descendant => exact descendantAction_lasts
  | shorthand => exact shorthandAction_lasts
  | brackets => exact bracketsAction_lasts
  | arguments => exact argumentsAction_lasts
  | filter => exact filterAction_lasts
  | regex => exact regexAction_lasts
  | done => simp [isFinal] at hf
  | failed => simp [isFinal] at hf

section
variable {mode next : Mode} {parens parens' : List Nat} {here : Position} {text text' : List Char}
  {kind : Kind} {length : Nat}

/-- A token that does not end the query is the same in front of whatever borders it. -/
theorem Mode.exists_front (hf : mode.isFinal = false)
    (h : mode.action parens here text = .emit kind length next parens') (hn : next ≠ .done) :
    ∃ front rest, text = front ++ rest ∧ front.length = length ∧ front ≠ [] ∧
      ∀ rest', Borders kind rest rest' → ∀ here,
        mode.action parens here (front ++ rest') = .emit kind length next parens' := by
  have hl := action_lasts hf parens here text
  rw [h] at hl
  exact hl.resolve_left fun hdone => hn hdone.1

theorem Mode.action_handOver (hf : mode.isFinal = false)
    (h : mode.action parens here text = .handOver next) (hhead : text'.head? = text.head?)
    (here' : Position) : mode.action parens here' text' = .handOver next := by
  have hl := action_lasts hf parens here text
  rw [h] at hl
  exact hl text' hhead here'

theorem Mode.action_emit (hf : mode.isFinal = false)
    (h : mode.action parens here text = .emit kind length next parens') (here' : Position) :
    mode.action parens here' text = .emit kind length next parens' := by
  have hl := action_lasts hf parens here text
  rw [h] at hl
  rcases hl with ⟨-, hl⟩ | ⟨front, rest, rfl, -, -, hl⟩
  · exact hl here'
  · exact hl rest (.refl kind rest) here'

end

end Lexer

end PathQuery
