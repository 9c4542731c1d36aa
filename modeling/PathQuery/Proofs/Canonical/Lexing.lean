import PathQuery.Proofs.Canonical.Basic

/-! The lexer comes through canonical texts, part by part, and makes the canonical tokens. -/
namespace PathQuery
open Token Lexer

/-- What the lexer needs of a segment and what follows it. -/
def Segment.Lexable [Pattern.Engine] (s : Segment) (rest : List Segment) : Prop :=
  s.Printable ∧ (s = .recursive → ∃ next more, rest = next :: more ∧ next ≠ .recursive)

theorem Segment.Lexable.writable [Pattern.Engine] {s : Segment} {rest : List Segment}
    (h : s.Lexable rest) : s.Writable rest := by
  cases s with
  | recursive => exact h.2 rfl
  | function => exact h.1
  | _ => trivial

/-- What may follow a predicate: a parenthesis or a blank, and then no segment. -/
def Ended (rest : List Char) : Prop :=
  ∃ c more, rest = c :: more ∧ (c = ')' ∨ c = ' ') ∧
    opensSegment (rest.dropWhile Scan.isBlank) = false

theorem Ended.numeral {rest : List Char} (h : Ended rest) : Numeral.Ends rest := by
  obtain ⟨c, more, rfl, rfl | rfl, -⟩ := h <;> simp [Numeral.Ends]

theorem Ended.word {rest : List Char} (h : Ended rest) :
    ∀ c ∈ rest.head?, Scan.isNameChar c = false := by
  obtain ⟨c, more, rfl, rfl | rfl, -⟩ := h <;> simp <;> decide

theorem Ended.flag {rest : List Char} (h : Ended rest) :
    ∀ c ∈ rest.head?, Scan.isFlag c = false := by
  obtain ⟨c, more, rfl, rfl | rfl, -⟩ := h <;> simp <;> decide

theorem ended_closed (rest : List Char) : Ended (')' :: rest) :=
  ⟨_, _, rfl, .inl rfl, rfl⟩

theorem ended_connective (op : Connective) (rest : List Char) :
    Ended ((" " ++ op.text ++ " ").toList ++ rest) := by
  cases op <;> exact ⟨_, _, rfl, .inr rfl, rfl⟩

section
variable {parens : List Nat} {rest : List Char}

/-! Names, numbers and literals -/

theorem leads_name (name : String) :
    Leads ⟨.brackets, parens, (quoteName name).toList ++ rest⟩ [nameKind name]
      ⟨.brackets, parens, rest⟩ := by
  have h : Leads ⟨.brackets, parens,
      '\'' :: (name.toList.flatMap escapeName ++ '\'' :: rest)⟩ [nameKind name]
        ⟨.brackets, parens, rest⟩ :=
    leads_string (.inl rfl) .single (Escape.Spelled.quotable_flatMap escapeName_spelled _)
  simpa [quoteName] using h

theorem leads_quoted {mode : Mode} (hm : mode.TakesLiterals) (s : String) :
    Leads ⟨mode, parens, (Value.string s).text.toList ++ rest⟩ [(Value.string s).literalKind]
      ⟨mode, parens, rest⟩ := by
  have h : Leads ⟨mode, parens, '"' :: (s.toList.flatMap Json.escape ++ '"' :: rest)⟩
      [(Value.string s).literalKind] ⟨mode, parens, rest⟩ :=
    leads_string hm .double (Escape.Spelled.quotable_flatMap Json.escape_spelled _)
  simpa [Value.text, Value.toJson, Json.text, Json.quote] using h

theorem leads_numeral {mode : Mode} (hm : mode.TakesLiterals) {x : Number}
    (h : x.isFinite = true) (hr : Numeral.Ends rest) :
    Leads ⟨mode, parens, (Value.number x).text.toList ++ rest⟩ [(Value.number x).literalKind]
      ⟨mode, parens, rest⟩ := by
  obtain ⟨negative, whole, fraction, exponent, htext, hw, hne, hf, -⟩ := Number.text_prints h
  rw [Value.literalKind, if_pos h, htext]
  exact leads_number hm hw hne hf hr

theorem leads_argument {v : Value} (h : v.IsArgument) (hr : Numeral.Ends rest) :
    Leads ⟨.brackets, parens, v.text.toList ++ rest⟩ [v.literalKind] ⟨.brackets, parens, rest⟩ := by
  cases v with
  | number x => exact leads_numeral (.inl rfl) h hr
  | string s => exact leads_quoted (.inl rfl) s
  | _ => exact h.elim

theorem isName_of_letters {word : List Char} (h : word.all Char.isAlpha = true) (hne : word ≠ []) :
    IsName word := by
  obtain ⟨c, more, rfl⟩ := List.exists_cons_of_ne_nil hne
  simp only [List.all_cons, Bool.and_eq_true, List.all_eq_true] at h
  refine ⟨c, more, rfl, ?_, fun d hd => ?_⟩
  · simp [Scan.isNameFirst, h.1]
  · simp [Scan.isNameChar, Scan.isNameFirst, h.2 d hd]

theorem leads_null (hr : ∀ c ∈ rest.head?, Scan.isNameChar c = false) :
    Leads ⟨.filter, parens, "null".toList ++ rest⟩ [.null] ⟨.filter, parens, rest⟩ :=
  leads_word (isName_of_letters rfl (by simp)) hr

theorem leads_literal {v : Value} (h : v.IsScalar) (hr : Ended rest) :
    Leads ⟨.filter, parens, v.text.toList ++ rest⟩ [v.literalKind] ⟨.filter, parens, rest⟩ := by
  cases v with
  | null => exact leads_null hr.word
  | bool b =>
    cases b with
    | false =>
      have hname : IsName "false".toList := isName_of_letters rfl (by simp)
      exact leads_word hname hr.word
    | true =>
      have hname : IsName "true".toList := isName_of_letters rfl (by simp)
      exact leads_word hname hr.word
  | number x =>
    cases hx : x.isFinite with
    | true => exact leads_numeral (.inr rfl) hx hr.numeral
    | false =>
      cases x with
      | finite => simp [Number.isFinite] at hx
      | infinite => exact leads_null hr.word
  | string s => exact leads_quoted (.inr rfl) s
  | array | object => exact h.elim

theorem leads_pattern [Pattern.Engine] {p : Pattern} (h : p.Spellable) (hr : Ended rest) :
    Leads ⟨.regex, parens, p.text.toList ++ rest⟩ [p.kind] ⟨.filter, parens, rest⟩ := by
  have hl : Leads ⟨.regex, parens,
      ('/' :: (p.source.toList.flatMap Pattern.escapeSlash ++ '/' :: p.flags.toList)) ++ rest⟩ _
        ⟨.filter, parens, rest⟩ := leads_regex h.source.escaped.1 h.flags hr.flag
  simpa [Pattern.text, Pattern.kind] using hl

/-- One item after the other, with commas between them. -/
theorem leads_listed {α : Type} {text : α → String} {kind : α → Kind} {as : List α}
    (h : ∀ a ∈ as, ∀ rest, Numeral.Ends rest →
      Leads ⟨.brackets, parens, (text a).toList ++ rest⟩ [kind a] ⟨.brackets, parens, rest⟩)
    (hr : Numeral.Ends rest) :
    Leads ⟨.brackets, parens, (", ".intercalate (as.map text)).toList ++ rest⟩
      ((as.map kind).intersperse .comma) ⟨.brackets, parens, rest⟩ := by
  induction as with
  | nil => exact .refl _
  | cons a as ih =>
    cases as with
    | nil => simpa using h a (by simp) rest hr
    | cons b as =>
      have item := h a (by simp)
        (',' :: ' ' :: ((", ".intercalate ((b :: as).map text)).toList ++ rest))
        (by simp [Numeral.Ends])
      have more := ih fun c hc => h c (List.mem_cons_of_mem _ hc)
      have := item.cons (leads_comma.cons more)
      simpa [String.intercalate_cons_cons] using this

/-! Selections -/

/-- What is read between brackets makes a selection. -/
theorem leads_brackets {mode : Mode} (hm : mode.Selects) {inside : List Char} {ks : List Kind}
    (h : ∀ rest, Numeral.Ends rest →
      Leads ⟨.brackets, parens, inside ++ rest⟩ ks ⟨.brackets, parens, rest⟩) :
    Leads ⟨mode, parens, '[' :: (inside ++ ']' :: rest)⟩
      (.openBracket :: (ks ++ [.closeBracket])) ⟨.segment, parens, rest⟩ := by
  have middle := h (']' :: rest) (by simp [Numeral.Ends])
  exact (leads_openBracket hm).cons (middle.trans leads_closeBracket)

theorem leads_index (i : Int64) (hr : Numeral.Ends rest) :
    Leads ⟨.brackets, parens, (indexText i).toList ++ rest⟩ [.int (indexText i)]
      ⟨.brackets, parens, rest⟩ := by
  have hd := Numeral.isDigits_toDigits i.toInt.natAbs
  have hf : Numeral.IsDigits [] := by simp [Numeral.IsDigits]
  have htext := Int.toList_repr i.toInt
  have hkind : Kind.int (indexText i) = numberKind (indexText i).toList := by
    rw [indexText, htext, numberKind_spell hd Nat.toDigits_ne_nil hf, ← htext, String.ofList_toList]
    rfl
  rw [hkind, indexText, htext]
  exact leads_number (.inl rfl) hd Nat.toDigits_ne_nil hf hr

theorem leads_bound (bound : Option Int64) (hr : Numeral.Ends rest) :
    Leads ⟨.brackets, parens, (boundText bound).toList ++ rest⟩ (Grammar.bound bound)
      ⟨.brackets, parens, rest⟩ := by
  cases bound with
  | none => exact .refl _
  | some i => exact leads_index i hr

theorem leads_slice (start stop step : Option Int64) (hr : Numeral.Ends rest) :
    Leads ⟨.brackets, parens,
      (boundText start ++ ":" ++ boundText stop ++ stepText step).toList ++ rest⟩
        (sliceKinds start stop step) ⟨.brackets, parens, rest⟩ := by
  have colon (more : List Char) : Numeral.Ends (':' :: more) := by simp [Numeral.Ends]
  have front (more : List Char) (hm : Numeral.Ends more) :
      Leads ⟨.brackets, parens,
        (boundText start).toList ++ ':' :: ((boundText stop).toList ++ more)⟩
          (Grammar.bound start ++ .colon :: Grammar.bound stop) ⟨.brackets, parens, more⟩ :=
    (leads_bound start (colon _)).trans (leads_colon.cons (leads_bound stop hm))
  cases step with
  | none => simpa [stepText, sliceKinds] using front rest hr
  | some i =>
    have back : Leads ⟨.brackets, parens, ':' :: ((indexText i).toList ++ rest)⟩
        [.colon, .int (indexText i)] ⟨.brackets, parens, rest⟩ :=
      leads_colon.cons (leads_index i hr)
    simpa [stepText, sliceKinds] using (front _ (colon _)).trans back

theorem leads_call {name : String} {args : List Value} (hn : IsName name.toList)
    (ha : ∀ arg ∈ args, arg.IsArgument) :
    Leads ⟨.brackets, parens,
      (name ++ "(" ++ ", ".intercalate (args.map Value.text) ++ ")").toList ++ rest⟩
        (.function name :: .openParen ::
          ((args.map Value.literalKind).intersperse .comma ++ [.closeParen]))
        ⟨.brackets, parens, rest⟩ := by
  have closes : Numeral.Ends (')' :: rest) := by simp [Numeral.Ends]
  have list : Leads ⟨.brackets, parens, _⟩ _ ⟨.brackets, parens, ')' :: rest⟩ :=
    leads_listed (fun v hv _ hr => leads_argument (ha v hv) hr) closes
  have call := (leads_function hn).cons (leads_callOpened.cons (list.trans leads_callClosed))
  simpa using call

end

/-! Texts without U+0000 -/

theorem nul_notMem_quoteName {name : String} (h : '\x00' ∉ name.toList) :
    '\x00' ∉ (quoteName name).toList := by
  have : '\x00' ∉ name.toList.flatMap escapeName := fun hm =>
    h (Escape.Spelled.nul_mem_flatMap escapeName_spelled hm).1
  simpa [quoteName] using this

theorem nul_notMem_number {x : Number} (h : x.isFinite = true) :
    '\x00' ∉ (Value.number x).text.toList := by
  obtain ⟨negative, whole, fraction, exponent, htext, hw, -, hf, -⟩ := Number.text_prints h
  rw [htext]
  exact Numeral.nul_notMem_spell hw hf

theorem nul_notMem_string (s : String) : '\x00' ∉ (Value.string s).text.toList := by
  have : '\x00' ∉ s.toList.flatMap Json.escape := fun hm =>
    absurd (Escape.Spelled.nul_mem_flatMap Json.escape_spelled hm).2 (by decide)
  simpa [Value.text, Value.toJson, Json.text, Json.quote] using this

theorem nul_notMem_argument {v : Value} (h : v.IsArgument) : '\x00' ∉ v.text.toList := by
  cases v with
  | number x => exact nul_notMem_number h
  | string s => exact nul_notMem_string s
  | _ => exact h.elim

theorem nul_notMem_literal {v : Value} (h : v.IsScalar) : '\x00' ∉ v.text.toList := by
  cases v with
  | null => decide
  | bool b => cases b <;> decide
  | number x =>
    cases hx : x.isFinite with
    | true => exact nul_notMem_number hx
    | false =>
      cases x with
      | finite => simp [Number.isFinite] at hx
      | infinite => exact show '\x00' ∉ "null".toList by decide
  | string s => exact nul_notMem_string s
  | array | object => exact h.elim

theorem nul_notMem_index (i : Int64) : '\x00' ∉ (indexText i).toList := by
  rw [indexText, Int.toList_repr]
  exact Numeral.nul_notMem_spell (Numeral.isDigits_toDigits _) (by simp [Numeral.IsDigits])

theorem nul_notMem_bound (bound : Option Int64) : '\x00' ∉ (boundText bound).toList := by
  cases bound with
  | none => simp [boundText]
  | some i => exact nul_notMem_index i

theorem nul_notMem_pattern [Pattern.Engine] {p : Pattern} (h : p.Spellable) :
    '\x00' ∉ p.text.toList := by
  have hsource := Pattern.nul_notMem_flatMap_escapeSlash h.visible
  have hflags : '\x00' ∉ p.flags.toList := fun hm => absurd (h.flags _ hm) (by decide)
  simp [Pattern.text, hsource, hflags]

theorem nul_notMem_listed {α : Type} {text : α → String} {as : List α}
    (h : ∀ a ∈ as, '\x00' ∉ (text a).toList) :
    '\x00' ∉ (", ".intercalate (as.map text)).toList := by
  induction as with
  | nil => simp
  | cons a as ih =>
    have ha := h a (by simp)
    have more := ih fun b hb => h b (List.mem_cons_of_mem _ hb)
    cases as with
    | nil => simpa using ha
    | cons b as =>
      rw [List.map_cons] at more ⊢
      rw [List.map_cons, String.intercalate_cons_cons, String.toList_append, String.toList_append]
      have comma : '\x00' ∉ ", ".toList := by decide
      simp only [List.mem_append, ha, comma, more, or_self, not_false_eq_true]

theorem nul_notMem_name {name : List Char} (h : IsName name) : '\x00' ∉ name := by
  intro hm
  exact absurd (h.isNameChar _ hm) (by decide)

variable [Pattern.Engine]

mutual

theorem Segment.nul_notMem_text : (s : Segment) → s.Printable →
    s.Within Segment.Lexable Predicate.Admitted → '\x00' ∉ s.text.toList
  | .field name, h, _ => by simpa [Segment.text] using nul_notMem_quoteName h
  | .wild, _, _ => by simp [Segment.text]
  | .recursive, _, _ => by simp [Segment.text]
  | .index i, _, _ => by simpa [Segment.text] using nul_notMem_index i
  | .slice a b c, _, _ => by
    have step : '\x00' ∉ (stepText c).toList := by
      cases c with
      | none => simp [stepText]
      | some i => simpa [stepText] using nul_notMem_index i
    simp [Segment.text, nul_notMem_bound, step]
  | .union names, h, _ => by
    simpa [Segment.text] using nul_notMem_listed fun name hn => nul_notMem_quoteName (h name hn)
  | .filter p, _, hw => by simpa [Segment.text] using Predicate.nul_notMem_text p hw
  | .function name args, h, _ => by
    have hargs := nul_notMem_listed fun arg ha => nul_notMem_argument (h.2 arg ha)
    simpa [Segment.text, nul_notMem_name h.1] using hargs

theorem Predicate.nul_notMem_text : (p : Predicate) →
    p.Everywhere Segment.Lexable Predicate.Admitted → '\x00' ∉ p.text.toList
  | .present path, h => Subpath.nul_notMem_text path h.2
  | .compare path op value, h => by
    have hop : '\x00' ∉ op.text.toList := by cases op <;> decide
    simp [Predicate.text, Subpath.nul_notMem_text path h.2, hop, nul_notMem_literal h.1]
  | .resembles path pattern, h => by
    simp [Predicate.text, Subpath.nul_notMem_text path h.2, nul_notMem_pattern h.1]
  | .not p, h => by simpa [Predicate.text] using Predicate.nul_notMem_text p h.2
  | .logical op p q, h => by
    have hop : '\x00' ∉ op.text.toList := by cases op <;> decide
    simp [Predicate.text, Predicate.nul_notMem_text p h.2.1, hop,
      Predicate.nul_notMem_text q h.2.2]

theorem Subpath.nul_notMem_text : (path : Subpath) →
    path.Everywhere Segment.Lexable Predicate.Admitted → '\x00' ∉ path.text.toList
  | .mk anchor segments, h => by
    have hanchor : '\x00' ∉ anchor.text.toList := by cases anchor <;> decide
    simp [Subpath.text, hanchor, nul_notMem_segmentsText segments h]

theorem nul_notMem_segmentsText : (segments : List Segment) →
    everywhere Segment.Lexable Predicate.Admitted segments →
    '\x00' ∉ (segmentsText segments).toList
  | [], _ => by simp [segmentsText]
  | s :: segments, h => by
    simp [segmentsText, Segment.nul_notMem_text s h.1.1 h.2.1,
      nul_notMem_segmentsText segments h.2.2]

end

/-! Queries -/

/-- A path goes on from where it is, and after two dots it goes on with a selection. -/
def Continues (mode : Mode) (segments : List Segment) : Prop :=
  mode = .segment ∨ mode = .descendant ∧ ∃ s more, segments = s :: more ∧ s ≠ .recursive

omit [Pattern.Engine] in
theorem opensSegment_compare (op : Comparison) (rest : List Char) :
    opensSegment (((" " ++ op.text ++ " ").toList ++ rest).dropWhile Scan.isBlank) = false := by
  cases op <;> rfl

mutual

theorem Segment.leads : (s : Segment) → ∀ {more}, s.Writable more →
    s.Within Segment.Writable Predicate.Admitted → s ≠ .recursive →
    ∀ {mode : Mode}, mode.Selects → ∀ parens rest,
    Leads ⟨mode, parens, s.text.toList ++ rest⟩ s.kinds ⟨.segment, parens, rest⟩
  | .field name, _, _, _, _, _, hm, parens, rest => by
    simpa [Segment.text, Segment.kinds] using leads_brackets hm fun _ _ => leads_name name
  | .wild, _, _, _, _, _, hm, parens, rest => by
    have star (rest : List Char) (_ : Numeral.Ends rest) :
      Leads ⟨.brackets, parens, ['*'] ++ rest⟩ [.star] ⟨.brackets, parens, rest⟩ := leads_star
    simpa [Segment.text, Segment.kinds] using leads_brackets hm star
  | .recursive, _, _, _, hne, _, _, _, _ => absurd rfl hne
  | .index i, _, _, _, _, _, hm, parens, rest => by
    simpa [Segment.text, Segment.kinds] using leads_brackets hm fun _ hr => leads_index i hr
  | .slice a b c, _, _, _, _, _, hm, parens, rest => by
    simpa [Segment.text, Segment.kinds] using leads_brackets hm fun _ hr => leads_slice a b c hr
  | .union names, _, _, _, _, _, hm, parens, rest => by
    have names (rest : List Char) (hr : Numeral.Ends rest) :
        Leads ⟨.brackets, parens, (", ".intercalate (names.map quoteName)).toList ++ rest⟩
          ((names.map nameKind).intersperse .comma) ⟨.brackets, parens, rest⟩ :=
      leads_listed (fun name _ _ _ => leads_name name) hr
    simpa [Segment.text, Segment.kinds] using leads_brackets hm names
  | .filter p, _, _, hw, _, _, hm, parens, rest => by
    have inside := Predicate.leads p hw 1 parens (ended_closed (']' :: rest))
    have h := (leads_openBracket hm).cons (leads_question.cons (leads_openParen.cons
      (inside.trans (leads_closeParen.cons leads_filterClosed))))
    simpa [Segment.text, Segment.kinds] using h
  | .function name args, _, hp, _, _, _, hm, parens, rest => by
    simpa [Segment.text, Segment.kinds] using leads_brackets hm fun _ _ => leads_call hp.1 hp.2

theorem Predicate.leads : (p : Predicate) → p.Everywhere Segment.Writable Predicate.Admitted →
    ∀ n parens {rest}, Ended rest →
    Leads ⟨.filter, n :: parens, p.text.toList ++ rest⟩ p.kinds ⟨.filter, n :: parens, rest⟩
  | .present path, h, n, parens, rest, hr => by
    have ⟨_, _, _, _, hopens⟩ := hr
    simpa [Predicate.text, Predicate.kinds] using Subpath.leads path h.2 n parens hopens
  | .compare path op value, h, n, parens, rest, hr => by
    have left := Subpath.leads path h.2 n parens
      (opensSegment_compare op (value.text.toList ++ rest))
    have h := left.trans ((leads_compare op).cons (.blank rfl (leads_literal h.1 hr)))
    simpa [Predicate.text, Predicate.kinds] using h
  | .resembles path pattern, h, n, parens, rest, hr => by
    have hopens : opensSegment ((" =~ ".toList ++ (pattern.text.toList ++ rest)).dropWhile
        Scan.isBlank) = false := rfl
    have left := Subpath.leads path h.2 n parens hopens
    have h := left.trans (leads_tilde.cons (.blank rfl (leads_pattern h.1 hr)))
    simpa [Predicate.text, Predicate.kinds] using h
  | .not p, h, n, parens, rest, hr => by
    have inside := Predicate.leads p h.2 (n + 1) parens (ended_closed rest)
    have h := leads_not.cons (.blank rfl
      (leads_openParen.cons (inside.trans leads_closeParen)))
    simpa [Predicate.text, Predicate.kinds] using h
  | .logical op p q, h, n, parens, rest, hr => by
    have left := Predicate.leads p h.2.1 (n + 1) parens
      (ended_connective op (q.text.toList ++ ')' :: rest))
    have right := Predicate.leads q h.2.2 (n + 1) parens (ended_closed rest)
    have h := leads_openParen.cons (left.trans ((leads_connective op).cons
      (.blank rfl (right.trans leads_closeParen))))
    simpa [Predicate.text, Predicate.kinds] using h

theorem Subpath.leads : (path : Subpath) → path.Everywhere Segment.Writable Predicate.Admitted →
    ∀ n parens {rest}, opensSegment (rest.dropWhile Scan.isBlank) = false →
    Leads ⟨.filter, n :: parens, path.text.toList ++ rest⟩ path.kinds ⟨.filter, n :: parens, rest⟩
  | .mk anchor segments, h, n, parens, rest, hr => by
    have path := (leads_anchor anchor).cons
      ((leads_segments segments h (.inl rfl) (n :: parens) rest).trans (leads_pathEnd hr))
    simpa [Subpath.text, Subpath.kinds] using path

theorem leads_segments : (segments : List Segment) →
    everywhere Segment.Writable Predicate.Admitted segments →
    ∀ {mode : Mode}, Continues mode segments → ∀ parens rest,
    Leads ⟨mode, parens, (segmentsText segments).toList ++ rest⟩ (segmentsKinds segments)
      ⟨.segment, parens, rest⟩
  | [], _, _, hm, parens, rest => by
    rcases hm with rfl | ⟨-, s, more, hnil, -⟩
    · exact .refl _
    · simp at hnil
  | s :: segments, h, mode, hm, parens, rest => by
    by_cases hs : s = .recursive
    · subst hs
      rcases hm with rfl | ⟨-, s, more, hs, hne⟩
      · obtain ⟨next, more, hmore, hne⟩ := h.1
        have more := leads_doubleDot.cons
          (leads_segments segments h.2.2 (.inr ⟨rfl, next, more, hmore, hne⟩) parens rest)
        simpa [segmentsText, Segment.text, segmentsKinds, Segment.kinds] using more
      · exact absurd (List.cons.inj hs).1.symm hne
    · have hselects : mode.Selects := hm.imp id And.left
      have first := Segment.leads s h.1 h.2.1 hs hselects parens
        ((segmentsText segments).toList ++ rest)
      have more := leads_segments segments h.2.2 (.inl rfl) parens rest
      simpa [segmentsText, segmentsKinds] using first.trans more

end

namespace Query
variable {q : Query}

/-- The lexer comes through a canonical text to its end, unless it stops at a U+0000. -/
theorem leads_text (h : q.Everywhere Segment.Writable Predicate.Admitted) :
    Leads ⟨.root, [], q.text.toList⟩ (q.kinds ++ [.endOfQuery]) ⟨.done, [], []⟩ := by
  have path := leads_segments q.segments h (.inl rfl) [] []
  simpa [text, kinds] using leads_root.cons (path.trans leads_end)

/-- The canonical text is read as the canonical tokens. -/
theorem tokenize_text (h : q.Everywhere Segment.Lexable Predicate.Admitted) :
    (tokenize q.text).map Token.kind = q.kinds ++ [.endOfQuery] := by
  have hvisible : visible q.text = q.text.toList := by
    have hnul : '\x00' ∉ q.text.toList := by
      simpa [text] using nul_notMem_segmentsText q.segments h
    exact visible_eq_toList hnul
  have all := leads_text (h.imp (fun _ _ hs => hs.writable) fun _ hp => hp)
  rw [← hvisible] at all
  exact tokenize_of_leads all

end Query
end PathQuery
