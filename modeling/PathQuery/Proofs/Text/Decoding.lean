import PathQuery.Proofs.Token.Border

/-! Escaped texts, read piece by piece. A text is decoded exactly if it splits into pieces that each
name a character, and what the lexer takes for a string can fail to do so only at a `\u`. -/
namespace PathQuery
open Token

namespace Escape

/-- A hexadecimal digit of either case, with its value. -/
def HexDigit (c : Char) (n : Nat) : Prop := n < 16 ∧ (c = n.digitChar ∨ c = n.digitChar.toUpper)

instance (c : Char) (n : Nat) : Decidable (HexDigit c n) := inferInstanceAs (Decidable (_ ∧ _))

/-- Four hexadecimal digits, of which the first counts most. -/
inductive Digits : List Char → Nat → Prop where
  | mk {a b c d : Char} {w x y z : Nat} (ha : HexDigit a w) (hb : HexDigit b x)
      (hc : HexDigit c y) (hd : HexDigit d z) :
      Digits [a, b, c, d] (((w * 16 + x) * 16 + y) * 16 + z)

/-- What stands for a character behind a backslash, with that character. -/
def letters : List (Char × Char) :=
  [('"', '"'), ('\'', '\''), ('\\', '\\'), ('/', '/'), ('b', '\x08'), ('f', '\x0c'), ('n', '\n'),
    ('r', '\r'), ('t', '\t')]

/-- A piece of an escaped text and the character that it names. -/
inductive Piece : List Char → Char → Prop where
  | plain {c : Char} (hb : c ≠ '\\') : Piece [c] c
  | letter {c d : Char} (h : (c, d) ∈ letters) : Piece ['\\', c] d
  -- A surrogate is not the number of any character.
  | unit {ds : List Char} {c : Char} (h : Digits ds c.toNat) : Piece ('\\' :: 'u' :: ds) c
  | pair {ds es : List Char} {high low : Nat} {c : Char} (hd : Digits ds high)
      (he : Digits es low) (hhigh : 0xD800 ≤ high ∧ high ≤ 0xDBFF)
      (hlow : 0xDC00 ≤ low ∧ low ≤ 0xDFFF)
      (hc : c.toNat = 0x10000 + (high - 0xD800) * 0x400 + (low - 0xDC00)) :
      Piece ('\\' :: 'u' :: (ds ++ '\\' :: 'u' :: es)) c

/-- A text that splits into pieces, with the characters that they name. -/
inductive Splits : List Char → List Char → Prop where
  | nil : Splits [] []
  | cons {piece text cs : List Char} {c : Char} (h : Piece piece c) (rest : Splits text cs) :
      Splits (piece ++ text) (c :: cs)

section
variable {a b c d : Char} {n unit low : Nat} {text rest cs ds : List Char}

theorem hexDigit?_eq_some_iff : hexDigit? c = some n ↔ HexDigit c n := by
  constructor
  · intro h
    have ascii : c.toNat < 128 := by
      have hle {e : Char} (hc : c ≤ e) (he : e.toNat < 128) : c.toNat < 128 :=
        Nat.lt_of_le_of_lt hc he
      unfold hexDigit? at h
      split at h
      next hc => exact hle hc.2 (by decide)
      · split at h
        next hc => exact hle hc.2 (by decide)
        · split at h
          next hc => exact hle hc.2 (by decide)
          · cases h
    have table : ∀ k < 128, ∀ n ∈ hexDigit? (Char.ofNat k), HexDigit (Char.ofNat k) n := by decide
    have hn := table c.toNat ascii n
    rw [Char.ofNat_toNat] at hn
    exact hn h
  · have table : ∀ n < 16,
        hexDigit? n.digitChar = some n ∧ hexDigit? n.digitChar.toUpper = some n := by decide
    rintro ⟨hn, rfl | rfl⟩
    · exact (table n hn).1
    · exact (table n hn).2

theorem digits_of_unit? (h : unit? a b c d = some n) : Digits [a, b, c, d] n := by
  simp only [unit?, Option.bind_eq_bind, Option.bind_eq_some_iff, hexDigit?_eq_some_iff] at h
  obtain ⟨w, ha, x, hb, y, hc, z, hd, h⟩ := h
  obtain rfl : ((w * 16 + x) * 16 + y) * 16 + z = n := by
    have := Option.some.inj h
    omega
  exact .mk ha hb hc hd

theorem Digits.exists_unit? (h : Digits ds n) :
    ∃ a b c d, ds = [a, b, c, d] ∧ unit? a b c d = some n := by
  obtain ⟨ha, hb, hc, hd⟩ := h
  rw [← hexDigit?_eq_some_iff] at ha hb hc hd
  refine ⟨_, _, _, _, rfl, ?_⟩
  simp only [unit?, ha, hb, hc, hd, Option.bind_eq_bind, Option.bind_some]
  exact congrArg some (by omega)

theorem Digits.lt (h : Digits ds n) : n < 0x10000 := by
  obtain ⟨⟨ha, -⟩, ⟨hb, -⟩, ⟨hc, -⟩, hd, -⟩ := h
  omega

theorem simple?_eq_some_iff : simple? true c = some d ↔ (c, d) ∈ letters := by
  constructor
  · intro h
    unfold simple? at h
    split at h <;> cases h <;> decide
  · intro h
    simp only [letters, List.mem_cons, Prod.mk.injEq, List.not_mem_nil, or_false] at h
    rcases h with ⟨rfl, rfl⟩ | ⟨rfl, rfl⟩ | ⟨rfl, rfl⟩ | ⟨rfl, rfl⟩ | ⟨rfl, rfl⟩ | ⟨rfl, rfl⟩ |
      ⟨rfl, rfl⟩ | ⟨rfl, rfl⟩ | ⟨rfl, rfl⟩ <;> rfl

theorem not_letter_u : ('u', d) ∉ letters := by simp [letters]

theorem toNat_ofNat (h : n.isValidChar) : (Char.ofNat n).toNat = n := by
  rw [Char.ofNat, dif_pos h]
  rfl

theorem toNat_pair (hhigh : 0xD800 ≤ unit ∧ unit ≤ 0xDBFF) (hlow : 0xDC00 ≤ low ∧ low ≤ 0xDFFF) :
    (pair unit low).toNat = 0x10000 + (unit - 0xD800) * 0x400 + (low - 0xDC00) := by
  apply toNat_ofNat
  right
  omega

theorem isHigh_iff : isHigh n = true ↔ 0xD800 ≤ n ∧ n ≤ 0xDBFF := by simp [isHigh]

theorem isLow_iff : isLow n = true ↔ 0xDC00 ≤ n ∧ n ≤ 0xDFFF := by simp [isLow]

theorem decode?_surrogates {apostrophe : Bool} {e f g h : Char} (hu : unit? a b c d = some unit)
    (hl : unit? e f g h = some low) (hhigh : isHigh unit = true) (hlow : isLow low = true) :
    decode? apostrophe
        ('\\' :: 'u' :: a :: b :: c :: d :: '\\' :: 'u' :: e :: f :: g :: h :: rest) =
      (decode? apostrophe rest).map (pair unit low :: ·) := by
  rw [decode?]
  simp only [hu, hl, hhigh, hlow, if_true, Option.bind_eq_bind, Option.bind_some]
  cases decode? apostrophe rest <;> rfl

/-- A piece in front is decoded to what it names. -/
theorem Piece.decode (h : Piece text c) (rest : List Char) :
    decode? true (text ++ rest) = (decode? true rest).map (c :: ·) := by
  cases h with
  | plain hb => exact decode?_plain hb
  | @letter e _ h =>
    refine decode?_pair ?_ (simple?_eq_some_iff.2 h)
    rintro rfl
    exact not_letter_u h
  | unit h =>
    obtain ⟨_, _, _, _, rfl, hu⟩ := h.exists_unit?
    exact decode?_unit hu
  | pair hd he hhigh hlow hc =>
    have hpair : c = Escape.pair _ _ :=
      Char.toNat_inj.1 (hc.trans (toNat_pair hhigh hlow).symm)
    rw [hpair]
    obtain ⟨_, _, _, _, rfl, hu⟩ := hd.exists_unit?
    obtain ⟨_, _, _, _, rfl, hl⟩ := he.exists_unit?
    exact decode?_surrogates hu hl (isHigh_iff.2 hhigh) (isLow_iff.2 hlow)

theorem Splits.decode (h : Splits text cs) : decode? true text = some cs := by
  induction h with
  | nil => rfl
  | cons h _ ih => rw [h.decode, ih, Option.map_some]

theorem splits_of_decode? (h : decode? true text = some cs) : Splits text cs := by
  fun_induction decode? true text generalizing cs with
  | case1 =>
    cases h
    exact .nil
  | case2 a b c d rest pairs units =>
    simp only [Option.bind_eq_bind, Option.bind_eq_some_iff] at h
    obtain ⟨unit, hu, h⟩ := h
    split at h
    next hhigh =>
      split at h
      next e f g i rest =>
        obtain ⟨low, hl, h⟩ := Option.bind_eq_some_iff.1 h
        split at h
        next hlow =>
          obtain ⟨more, hm, h⟩ := Option.bind_eq_some_iff.1 h
          cases h
          have hh := isHigh_iff.1 hhigh
          have hl' := isLow_iff.1 hlow
          have piece :=
            Piece.pair (digits_of_unit? hu) (digits_of_unit? hl) hh hl' (toNat_pair hh hl')
          exact .cons piece (pairs hm)
        · cases h
      · cases h
    next hhigh =>
      split at h
      · cases h
      next hlow =>
        obtain ⟨more, hm, h⟩ := Option.bind_eq_some_iff.1 h
        cases h
        have hscalar : (Char.ofNat unit).toNat = unit := by
          have hlt := (digits_of_unit? hu).lt
          simp only [isHigh_iff, isLow_iff] at hhigh hlow
          apply toNat_ofNat
          unfold Nat.isValidChar
          omega
        have piece : Piece ['\\', 'u', a, b, c, d] (Char.ofNat unit) :=
          .unit (hscalar.symm ▸ digits_of_unit? hu)
        exact .cons piece (units hm)
  | case3 c rest hu ih =>
    simp only [Option.bind_eq_bind, Option.bind_eq_some_iff] at h
    obtain ⟨e, he, more, hm, h⟩ := h
    cases h
    exact .cons (.letter (simple?_eq_some_iff.1 he)) (ih hm)
  | case4 => cases h
  | case5 c rest _ hpair hlast ih =>
    obtain ⟨more, hm, h⟩ := Option.bind_eq_some_iff.1 h
    cases h
    have hb : c ≠ '\\' := by
      rintro rfl
      cases rest with
      | nil => exact hlast rfl rfl
      | cons d rest => exact hpair d rest rfl rfl
    exact .cons (.plain hb) (ih hm)

/-- Decoding succeeds on the texts that split into pieces, with what these name. -/
theorem decode?_eq_some_iff : decode? true text = some cs ↔ Splits text cs :=
  ⟨splits_of_decode?, Splits.decode⟩

/-! Every character has an escape. -/

theorem hexDigit_digitChar (h : n < 16) : HexDigit n.digitChar n := ⟨h, .inl rfl⟩

theorem exists_digits (h : n < 0x10000) : ∃ ds, Digits ds n := by
  have hd (k : Nat) : HexDigit (k % 16).digitChar (k % 16) := hexDigit_digitChar (by omega)
  have hn : ((n / 0x1000 % 16 * 16 + n / 0x100 % 16) * 16 + n / 0x10 % 16) * 16 + n % 16 = n := by
    omega
  have digits := Digits.mk (hd (n / 0x1000)) (hd (n / 0x100)) (hd (n / 0x10)) (hd n)
  exact ⟨_, hn ▸ digits⟩

theorem exists_escape (c : Char) : ∃ text, Piece ('\\' :: 'u' :: text) c := by
  by_cases hc : c.toNat < 0x10000
  · obtain ⟨ds, hd⟩ := exists_digits hc
    exact ⟨ds, .unit hd⟩
  · have hvalid : c.toNat < 0xD800 ∨ 0xDFFF < c.toNat ∧ c.toNat < 0x110000 := c.valid
    obtain ⟨ds, hd⟩ := exists_digits (n := 0xD800 + (c.toNat - 0x10000) / 0x400) (by omega)
    obtain ⟨es, he⟩ := exists_digits (n := 0xDC00 + (c.toNat - 0x10000) % 0x400) (by omega)
    exact ⟨_, .pair hd he (by omega) (by omega) (by omega)⟩

/-! What stands between quotes -/

variable {quote : Char}

theorem exists_letter (he : Scan.isEscapable c = true) (hu : c ≠ 'u') :
    ∃ d, (c, d) ∈ letters := by
  have table : ['b', 'f', 'n', 'r', 't', 'u', '/', '\\', '\'', '"'].all
      (fun c => c == 'u' || (simple? true c).isSome) = true := by decide
  have hsome : (simple? true c).isSome = true := by
    simpa [hu] using List.all_eq_true.1 table c (List.contains_iff_mem.1 he)
  obtain ⟨d, hd⟩ := Option.isSome_iff_exists.1 hsome
  exact ⟨d, simple?_eq_some_iff.1 hd⟩

theorem Piece.ne_nil (h : Piece text c) : text ≠ [] := by
  cases h <;> simp

/-- Behind a piece, a text between quotes goes on. -/
theorem Piece.quotable (h : Piece text c) (hq : Scan.Quotable quote (text ++ rest)) :
    Scan.Quotable quote rest := by
  cases h with
  | plain hb => exact (hq.of_cons hb).2
  | letter => exact hq.of_pair
  | unit h =>
    obtain ⟨_, _, _, _, rfl, hu⟩ := h.exists_unit?
    exact quotable_of_unit? hq hu
  | pair hd he =>
    obtain ⟨_, _, _, _, rfl, hu⟩ := hd.exists_unit?
    obtain ⟨_, _, _, _, rfl, hl⟩ := he.exists_unit?
    exact quotable_of_unit? (quotable_of_unit? hq hu) hl

/-- Between quotes only a `\u` begins no piece. -/
theorem exists_piece_or_unit (hq : Scan.Quotable quote text) (hne : text ≠ []) :
    (∃ piece c rest, Piece piece c ∧ text = piece ++ rest) ∨
      ∃ rest, text = '\\' :: 'u' :: rest := by
  cases hq with
  | nil => exact absurd rfl hne
  | @pair c rest he =>
    by_cases hu : c = 'u'
    · exact .inr ⟨rest, by rw [hu]⟩
    · obtain ⟨d, hd⟩ := exists_letter he hu
      exact .inl ⟨_, d, rest, .letter hd, rfl⟩
  | @plain c rest hb => exact .inl ⟨_, c, rest, .plain hb, rfl⟩

/-- Up to a `\u` that begins no piece, what stands between quotes splits into pieces. -/
theorem exists_unit_of_not_splits (hq : Scan.Quotable quote text)
    (hn : ∀ cs, ¬ Splits text cs) :
    ∃ read rest cs, text = read ++ '\\' :: 'u' :: rest ∧ Splits read cs ∧
      ∀ piece c, Piece piece c → ¬ piece <+: '\\' :: 'u' :: rest := by
  induction hl : text.length using Nat.strong_induction_on generalizing text with
  | _ length ih =>
  by_cases hp : ∃ piece c rest, Piece piece c ∧ text = piece ++ rest
  · obtain ⟨piece, c, rest, piece_c, rfl⟩ := hp
    have hlt : rest.length < (piece ++ rest).length := by
      have := List.length_pos_iff.2 piece_c.ne_nil
      simp only [List.length_append]
      omega
    obtain ⟨read, more, cs, rfl, hread, hmore⟩ :=
      ih _ (hl ▸ hlt) (piece_c.quotable hq) (fun cs h => hn _ (.cons piece_c h)) rfl
    exact ⟨piece ++ read, more, c :: cs, by simp, .cons piece_c hread, hmore⟩
  · have hne : text ≠ [] := by
      rintro rfl
      exact hn [] .nil
    obtain ⟨rest, rfl⟩ := (exists_piece_or_unit hq hne).resolve_left hp
    refine ⟨[], rest, [], rfl, .nil, ?_⟩
    rintro piece c piece_c ⟨more, hmore⟩
    exact hp ⟨piece, c, more, piece_c, hmore.symm⟩

end

end Escape

/-- The raw text of a string is what may stand between its quotes. -/
def Token.Kind.Quotes : Kind → Prop
  | .string quote raw => Scan.Quotable quote.char raw.toList
  | _ => True

namespace Lexer
open Scan

def Action.Quotes : Action → Prop
  | .emit kind .. => kind.Quotes
  | _ => True

section
variable {mode : Mode} {parens : List Nat} {here : Position} {text : List Char}

theorem stringToken_quotes {quote : Quote} :
    (stringToken mode parens here text quote).Quotes := by
  unfold stringToken ofResult
  split
  next length hl =>
    obtain ⟨raw, rest, hq, htext, rfl⟩ := exists_of_string hl
    have hraw : (text.drop 1).take (1 + raw.length + 1 - 2) = raw := by
      rw [htext, show 1 + raw.length + 1 - 2 = raw.length by omega, List.take_left]
    show Quotable quote.char (lexeme (text.drop 1) (1 + raw.length + 1 - 2)).toList
    rwa [lexeme, String.toList_ofList, hraw]
  · trivial

theorem numberToken_quotes : (numberToken mode parens text).Quotes := by
  unfold numberToken ofResult
  split
  next r _ =>
    obtain ⟨_, isFloat⟩ := r
    cases isFloat <;> trivial
  · trivial

theorem wordKind_quotes (word : String) (call : Bool) : (wordKind word call).Quotes := by
  unfold wordKind
  split
  case h_7 => split <;> trivial
  all_goals trivial

theorem segmentAction_quotes : (segmentAction parens text).Quotes := by
  unfold segmentAction
  split
  case h_4 =>
    split
    · trivial
    · split <;> trivial
  all_goals trivial

theorem descendantAction_quotes : (descendantAction parens text).Quotes := by
  unfold descendantAction
  split
  case h_3 => split <;> trivial
  all_goals trivial

theorem shorthandAction_quotes : (shorthandAction parens text).Quotes := by
  unfold shorthandAction
  split
  · trivial
  · dsimp only
    split
    · split <;> trivial
    · trivial

theorem bracketsAction_quotes : (bracketsAction parens here text).Quotes := by
  unfold bracketsAction
  split
  case h_9 | h_10 => exact stringToken_quotes
  case h_11 =>
    dsimp only
    split
    · exact numberToken_quotes
    · split
      · split <;> trivial
      · trivial
  all_goals trivial

theorem argumentsAction_quotes : (argumentsAction parens here text).Quotes := by
  unfold argumentsAction
  split
  case h_5 | h_6 => exact stringToken_quotes
  case h_7 =>
    split
    · exact numberToken_quotes
    · trivial
  all_goals trivial

theorem filterAction_quotes : (filterAction parens here text).Quotes := by
  unfold filterAction
  split
  case h_2 | h_4 => split <;> trivial
  case h_5 | h_6 => exact stringToken_quotes
  case h_24 =>
    dsimp only
    split
    · exact numberToken_quotes
    · split
      · exact wordKind_quotes _ _
      · trivial
  all_goals trivial

theorem Mode.action_quotes (mode : Mode) : (mode.action parens here text).Quotes := by
  cases mode with
  | root =>
    show (rootAction parens text).Quotes
    unfold rootAction
    split <;> trivial
  | segment => exact segmentAction_quotes
  | descendant => exact descendantAction_quotes
  | shorthand => exact shorthandAction_quotes
  | brackets => exact bracketsAction_quotes
  | arguments => exact argumentsAction_quotes
  | filter => exact filterAction_quotes
  | regex =>
    show (regexAction parens here text).Quotes
    unfold regexAction
    split
    · unfold regexToken ofResult
      split <;> trivial
    · trivial
  | done | failed => trivial

end

namespace Machine
variable {m : Machine}

theorem step_quotes (h : ∀ t ∈ m.tokens, t.kind.Quotes) : ∀ t ∈ m.step.tokens, t.kind.Quotes := by
  unfold step
  split
  · exact h
  · dsimp only
    have ha := @Mode.action_quotes m.parens m.cursor.skipBlank.position m.cursor.skipBlank.rest
      m.mode
    split
    next hk =>
      rw [hk] at ha
      exact List.forall_mem_cons.2 ⟨ha, h⟩
    · exact h
    · exact List.forall_mem_cons.2 ⟨trivial, h⟩

theorem run_quotes (h : ∀ t ∈ m.tokens, t.kind.Quotes) (fuel : Nat) :
    ∀ t ∈ (m.run fuel).tokens, t.kind.Quotes := by
  induction fuel generalizing m with
  | zero => exact h
  | succ fuel ih =>
    rw [run_succ]
    exact ih (step_quotes h)

end Machine

theorem tokenize_quotes (text : String) : ∀ t ∈ tokenize text, t.kind.Quotes := by
  rw [tokenize_eq_run]
  intro t ht
  have start_quotes : ∀ t ∈ (start text).tokens, t.kind.Quotes := by simp [start]
  exact Machine.run_quotes start_quotes _ t (List.mem_reverse.1 ht)

end Lexer

theorem unescape_eq_ok_iff {raw s : String} :
    unescape raw = .ok s ↔ Escape.Splits raw.toList s.toList := by
  rw [← Escape.decode?_eq_some_iff, unescape]
  cases Escape.decode? true raw.toList with
  | none => simp
  | some cs =>
    rw [Except.ok.injEq, Option.some.injEq]
    constructor
    · rintro rfl
      exact String.toList_ofList.symm
    · rintro rfl
      exact String.ofList_toList

theorem unescape_eq_error {raw : String} {cause : SyntaxError.Cause}
    (h : unescape raw = .error cause) :
    cause = .invalidEscape ∧ ∀ cs, ¬ Escape.Splits raw.toList cs := by
  unfold unescape at h
  split at h
  · cases h
  next hn =>
    cases h
    refine ⟨rfl, fun cs hs => ?_⟩
    rw [hs.decode] at hn
    cases hn

/-- Exactly the texts that split into pieces are unescaped, to the characters that the pieces name;
every character is named by some escape; and of the strings that the lexer makes, those fail that
hold a `\u` where no piece begins. -/
theorem unescape_piecewise :
    (∀ raw s, unescape raw = .ok s ↔ Escape.Splits raw.toList s.toList) ∧
    (∀ c : Char, ∃ text, Escape.Piece ('\\' :: 'u' :: text) c ∧
      unescape (String.ofList ('\\' :: 'u' :: text)) = .ok (String.singleton c)) ∧
    ∀ query, ∀ t ∈ Lexer.tokenize query, ∀ quote raw, t.kind = .string quote raw →
      ∀ cause, unescape raw = .error cause → cause = .invalidEscape ∧
        ∃ read rest cs, raw.toList = read ++ '\\' :: 'u' :: rest ∧ Escape.Splits read cs ∧
          ∀ piece c, Escape.Piece piece c → ¬ piece <+: '\\' :: 'u' :: rest := by
  refine ⟨fun raw s => unescape_eq_ok_iff, fun c => ?_, ?_⟩
  · obtain ⟨text, piece⟩ := Escape.exists_escape c
    refine ⟨text, piece, unescape_eq_ok_iff.2 ?_⟩
    rw [String.toList_ofList, String.toList_singleton, ← List.append_nil (_ :: _)]
    exact .cons piece .nil
  · intro query t ht quote raw hk cause h
    obtain ⟨rfl, hn⟩ := unescape_eq_error h
    have quotes := Lexer.tokenize_quotes query t ht
    rw [hk] at quotes
    exact ⟨rfl, Escape.exists_unit_of_not_splits quotes hn⟩

/-- Half a pair behind an escape that is in order. -/
theorem unescape_piecewise_half :
    (∃ t ∈ Lexer.tokenize "$['\\u00E9\\uD83D']", t.kind = .string .single "\\u00E9\\uD83D") ∧
      unescape "\\u00E9\\uD83D" = .error .invalidEscape ∧
      ∃ read rest cs, "\\u00E9\\uD83D".toList = read ++ '\\' :: 'u' :: rest ∧
        Escape.Splits read cs ∧
          ∀ piece c, Escape.Piece piece c → ¬ piece <+: '\\' :: 'u' :: rest := by
  have tokens : Lexer.tokenize "$['\\u00E9\\uD83D']" =
      [⟨.root, "$", 0, 1, ⟨1, 1⟩⟩, ⟨.openBracket, "[", 1, 2, ⟨1, 2⟩⟩,
        ⟨.string .single "\\u00E9\\uD83D", "'\\u00E9\\uD83D'", 2, 16, ⟨1, 3⟩⟩,
        ⟨.closeBracket, "]", 16, 17, ⟨1, 17⟩⟩, ⟨.endOfQuery, "", 17, 17, ⟨1, 18⟩⟩] := rfl
  have isToken : (⟨.string .single "\\u00E9\\uD83D", "'\\u00E9\\uD83D'", 2, 16, ⟨1, 3⟩⟩ : Token) ∈
      Lexer.tokenize "$['\\u00E9\\uD83D']" := by
    rw [tokens]
    simp
  have refused : unescape "\\u00E9\\uD83D" = .error .invalidEscape := by cbv
  obtain ⟨-, failed⟩ := unescape_piecewise.2.2 _ _ isToken .single _ rfl _ refused
  exact ⟨⟨_, isToken, rfl⟩, refused, failed⟩

end PathQuery
