import PathQuery.Proofs.Canonical.Visible
import PathQuery.Proofs.Query.Acceptance
import PathQuery.Proofs.Query.Notation
import PathQuery.Proofs.Token.Reading
import PathQuery.Proofs.Token.Tiling

/-! From dots to brackets. A text in which selections behind dots are put between brackets is still
accepted, and is parsed into the same query. -/
namespace PathQuery
open Token

namespace Lexer
open Scan

/-- What is written between brackets for a name or a star. -/
inductive Boxed : Kind × String → List Char → Prop where
  | name (s : String) : Boxed (.name s, s) ('\'' :: (s.toList ++ ['\'']))
  | star : Boxed (.star, "*") ['*']

/-- Words with blanks in front of each of them and behind the last. -/
inductive Spelled : List (Kind × String) → List Char → Prop where
  | nil {gap : List Char} (hg : Blanks gap) : Spelled [] gap
  | cons {w : Kind × String} {ws : List (Kind × String)} {gap rest : List Char}
      (hg : Blanks gap) (more : Spelled ws rest) :
      Spelled (w :: ws) (gap ++ (w.2.toList ++ rest))

/-- A text of these words, and that text with any of the selections behind dots put between
brackets. -/
inductive Rewritten : List (Kind × String) → List Char → List Char → Prop where
  | last (w : Kind × String) (text : List Char) : Rewritten [w] text text
  | keep {w : Kind × String} {ws : List (Kind × String)} {gap rest rest' : List Char}
      (hg : Blanks gap) (more : Rewritten ws rest rest') :
      Rewritten (w :: ws) (gap ++ (w.2.toList ++ rest)) (gap ++ (w.2.toList ++ rest'))
  | bare {w : Kind × String} {ws : List (Kind × String)}
      {gap inner rest rest' boxed : List Char} (hg : Blanks gap) (hi : Blanks inner)
      (h : Boxed w boxed) (more : Rewritten ws rest rest') :
      Rewritten ((.dot, ".") :: w :: ws)
        (gap ++ '.' :: (inner ++ (w.2.toList ++ rest)))
        (gap ++ '[' :: (boxed ++ ']' :: rest'))
  | descendant {w : Kind × String} {ws : List (Kind × String)}
      {gap inner rest rest' boxed : List Char} (hg : Blanks gap) (hi : Blanks inner)
      (h : Boxed w boxed) (more : Rewritten ws rest rest') :
      Rewritten ((.doubleDot, "..") :: w :: ws)
        (gap ++ '.' :: '.' :: (inner ++ (w.2.toList ++ rest)))
        (gap ++ '.' :: '.' :: '[' :: (boxed ++ ']' :: rest'))
  | call {name : String} {args ws : List (Kind × String)}
      {gap inner call rest rest' : List Char} (hg : Blanks gap) (hi : Blanks inner)
      (hargs : ∀ w ∈ args, w.1 ≠ .closeParen) (hcall : Spelled args call)
      (more : Rewritten ws rest rest') :
      Rewritten ((.dot, ".") :: (.function name, name) :: (args ++ (.closeParen, ")") :: ws))
        (gap ++ '.' :: (inner ++ (name.toList ++ (call ++ ')' :: rest))))
        (gap ++ '[' :: (name.toList ++ (call ++ ')' :: ']' :: rest')))

/-! Where the two texts differ -/

/-- The texts begin alike, or the one with a dot and the other with a bracket. -/
def StartsAlike (text text' : List Char) : Prop :=
  text'.head? = text.head? ∨ text.head? = some '.' ∧ text'.head? = some '['

namespace StartsAlike
variable {text text' : List Char}

theorem append (h : StartsAlike text text') (front : List Char) :
    StartsAlike (front ++ text) (front ++ text') := by
  cases front with
  | nil => exact h
  | cons c front => exact .inl rfl

theorem opensSegment (h : StartsAlike text text') :
    Lexer.opensSegment text' = Lexer.opensSegment text := by
  unfold Lexer.opensSegment
  rcases h with h | ⟨hdot, hbracket⟩
  · rw [h]
  · rw [hdot, hbracket]
    rfl

/-- A bracket ends whatever token is in front of it. -/
theorem borders {kind : Kind} (h : StartsAlike text text')
    (hcall : ∀ name, kind = .function name → text.head? = some '(') :
    Borders kind text text' := by
  rcases h with h | ⟨hdot, hbracket⟩
  · exact .inl h
  · right
    constructor
    · intro name hk
      simp [hcall name hk] at hdot
    · exact ⟨'[', hbracket, rfl⟩

end StartsAlike

theorem Rewritten.ne_nil {ws : List (Kind × String)} {text text' : List Char}
    (h : Rewritten ws text text') : ws ≠ [] := by
  cases h <;> simp

theorem Rewritten.startsAlike {ws : List (Kind × String)} {text text' : List Char}
    (h : Rewritten ws text text') : StartsAlike text text' := by
  induction h with
  | last => exact .inl rfl
  | keep _ _ ih => exact (ih.append _).append _
  | bare | call =>
    apply StartsAlike.append
    exact .inr ⟨rfl, rfl⟩
  | descendant =>
    apply StartsAlike.append
    exact .inl rfl

/-- Apart from blanks, too. -/
theorem Rewritten.opensSegment {ws : List (Kind × String)} {text text' : List Char}
    (h : Rewritten ws text text') :
    Lexer.opensSegment (text'.dropWhile isBlank) = Lexer.opensSegment (text.dropWhile isBlank) := by
  induction h with
  | last => rfl
  | @keep w ws gap rest rest' hg more ih =>
    rw [hg.dropWhile, hg.dropWhile, List.dropWhile_append, List.dropWhile_append]
    split
    · exact ih
    · exact (more.startsAlike.append _).opensSegment
  | bare hg | descendant hg | call hg =>
    rw [hg.dropWhile, hg.dropWhile]
    rfl

/-! Texts end at their first U+0000 -/

section
variable {gap text text' : List Char} {w : Kind × String} {ws : List (Kind × String)}

theorem Boxed.nul_notMem (h : Boxed w text) (h0 : '\x00' ∉ w.2.toList) : '\x00' ∉ text := by
  cases h with
  | name s =>
    have hs : '\x00' ∉ s.toList := h0
    simpa using hs
  | star => decide

theorem Spelled.nul_notMem (h : Spelled ws text) (h0 : ∀ w ∈ ws, '\x00' ∉ w.2.toList) :
    '\x00' ∉ text := by
  induction h with
  | nil hg => exact hg.nul_notMem
  | cons hg _ ih =>
    obtain ⟨hw, hws⟩ := List.forall_mem_cons.1 h0
    simp [hg.nul_notMem, hw, ih hws]

theorem Rewritten.cut (h : Rewritten ws text text') (h0 : ∀ w ∈ ws, '\x00' ∉ w.2.toList) :
    Rewritten ws (PathQuery.cut text) (PathQuery.cut text') := by
  have dot := cut_cons (c := '.') (by decide)
  have opened := cut_cons (c := '[') (by decide)
  have closed := cut_cons (c := ']') (by decide)
  have called := cut_cons (c := ')') (by decide)
  induction h with
  | last w text => exact .last w _
  | keep hg _ ih =>
    obtain ⟨hw, hws⟩ := List.forall_mem_cons.1 h0
    simp only [cut_append hg.nul_notMem, cut_append hw]
    exact .keep hg (ih hws)
  | bare hg hi hbox _ ih =>
    obtain ⟨-, hw, hws⟩ := (List.forall_mem_cons.1 h0).imp_right List.forall_mem_cons.1
    simp only [cut_append hg.nul_notMem, cut_append hi.nul_notMem, cut_append hw,
      cut_append (hbox.nul_notMem hw), dot, opened, closed]
    exact .bare hg hi hbox (ih hws)
  | descendant hg hi hbox _ ih =>
    obtain ⟨-, hw, hws⟩ := (List.forall_mem_cons.1 h0).imp_right List.forall_mem_cons.1
    simp only [cut_append hg.nul_notMem, cut_append hi.nul_notMem, cut_append hw,
      cut_append (hbox.nul_notMem hw), dot, opened, closed]
    exact .descendant hg hi hbox (ih hws)
  | @call name args ws _ _ _ _ _ hg hi hargs hcall _ ih =>
    obtain ⟨-, hname, hmore⟩ := (List.forall_mem_cons.1 h0).imp_right List.forall_mem_cons.1
    obtain ⟨hcalled, -, hws⟩ :=
      (List.forall_mem_append.1 hmore).imp_right List.forall_mem_cons.1
    have hname : '\x00' ∉ name.toList := hname
    simp only [cut_append hg.nul_notMem, cut_append hi.nul_notMem, cut_append hname,
      cut_append (hcall.nul_notMem hcalled), dot, opened, closed, called]
    exact .call hg hi hargs hcall (ih hws)

end

/-! Reading between brackets what was behind a dot -/

theorem not_marked_of_isNameChar {c : Char} (h : isNameChar c = true) : c ≠ '\\' ∧ c ≠ '\'' := by
  constructor
  · rintro rfl
    exact absurd h (by decide)
  · rintro rfl
    exact absurd h (by decide)

/-- A name means itself between quotes. -/
theorem quotable_of_isNameChar {cs : List Char} (h : ∀ c ∈ cs, isNameChar c = true) :
    Quotable '\'' cs ∧ Escape.decode? true cs = some cs := by
  induction cs with
  | nil => exact ⟨.nil, rfl⟩
  | cons c cs ih =>
    obtain ⟨hc, hcs⟩ := List.forall_mem_cons.1 h
    obtain ⟨hb, hq⟩ := not_marked_of_isNameChar hc
    obtain ⟨hquotable, hdecode⟩ := ih hcs
    exact ⟨.plain hb hq hquotable, by rw [Escape.decode?_plain hb, hdecode]; rfl⟩

section
variable {mode next : Mode} {parens parens' : List Nat} {w : Kind × String}
  {words args : List (Kind × String)} {rest text text' boxed call : List Char}

theorem Boxed.leads (hb : Boxed w boxed) (hm : mode.TakesBare)
    (h : Reads mode parens w.1 w.2 rest next parens') :
    next = .segment ∧ parens' = parens ∧ ∃ k, Grammar.Boxed w.1 k ∧
      ∀ rest', Leads ⟨.brackets, parens, boxed ++ ']' :: rest'⟩ [k, .closeBracket]
        ⟨.segment, parens, rest'⟩ := by
  cases hb with
  | name s =>
    obtain ⟨hname, hnext, hparens⟩ := h.name hm
    obtain ⟨hquotable, hdecode⟩ := quotable_of_isNameChar hname.isNameChar
    have hunescape : unescape s = .ok s := by
      rw [unescape, hdecode]
      exact congrArg Except.ok String.ofList_toList
    refine ⟨hnext, hparens, _, .name hunescape, fun rest' => ?_⟩
    have hstring : Leads
        ⟨.brackets, parens, Quote.single.char :: (s.toList ++ Quote.single.char :: ']' :: rest')⟩
        [.string .single (String.ofList s.toList)] ⟨.brackets, parens, ']' :: rest'⟩ :=
      leads_string (.inl rfl) .single hquotable
    rw [String.ofList_toList] at hstring
    rw [List.cons_append, List.append_assoc, List.singleton_append]
    exact hstring.cons leads_closeBracket
  | star =>
    obtain ⟨hnext, hparens⟩ := h.star hm
    exact ⟨hnext, hparens, _, .star, fun rest' => leads_star.cons leads_closeBracket⟩

/-- The arguments of a call, up to its closing parenthesis. -/
theorem Spelled.leads (hc : Spelled args call) (hargs : ∀ w ∈ args, w.1 ≠ .closeParen)
    (hw : words ≠ [])
    (h : Passes ⟨.arguments, parens, call ++ ')' :: rest⟩
      (args ++ (.closeParen, ")") :: words)) :
    Passes ⟨.segment, parens, rest⟩ words ∧
      ∀ rest', Leads ⟨.brackets, parens, call ++ ')' :: rest'⟩ (args.map Prod.fst ++ [.closeParen])
        ⟨.brackets, parens, rest'⟩ := by
  induction hc with
  | nil hg =>
    have h : Passes ⟨.arguments, parens, _ ++ (")".toList ++ rest)⟩ _ := h
    obtain ⟨next, parens', hread, hp⟩ := h.exists_reads_here (by decide) (by decide) hg hw
    obtain ⟨rfl, ⟨-, rfl⟩ | ⟨hk, -⟩, hbrackets⟩ := hread.argument
    · refine ⟨hp, fun rest' => ?_⟩
      have hcloses : Reads .brackets parens' .closeParen ")" rest' .brackets parens' :=
        ⟨rfl, hbrackets.no_blank, fun _ _ _ => rfl⟩
      exact hcloses.leads hg (.refl _ _)
    · exact absurd rfl hk
  | @cons w args gap inner hg _ ih =>
    obtain ⟨hw', hargs⟩ := List.forall_mem_cons.1 hargs
    have htext (rest : List Char) : gap ++ (w.2.toList ++ inner) ++ ')' :: rest =
        gap ++ (w.2.toList ++ (inner ++ ')' :: rest)) := by simp
    rw [htext] at h
    obtain ⟨next, parens', hread, hp⟩ :=
      Passes.exists_reads_here (by decide) (by decide) hg (by simp) h
    obtain ⟨rfl, ⟨hk, -⟩ | ⟨-, rfl⟩, hbrackets⟩ := hread.argument
    · exact absurd hk hw'
    · obtain ⟨hrest, hleads⟩ := ih hargs hp
      refine ⟨hrest, fun rest' => ?_⟩
      rw [htext]
      have hb : Borders w.1 (inner ++ ')' :: rest) (inner ++ ')' :: rest') := by
        left
        cases inner <;> rfl
      exact (hbrackets.leads hg hb).cons (hleads rest')

variable {gap : List Char}

/-- Where a dot is read, a bracket can be opened instead. -/
theorem Passes.dot (hg : Blanks gap) (hw : words ≠ [])
    (h : Passes ⟨mode, parens, gap ++ '.' :: rest⟩ ((.dot, ".") :: words)) :
    Passes ⟨.shorthand, parens, rest⟩ words ∧
      ∀ rest', Leads ⟨mode, parens, gap ++ '[' :: rest'⟩ [.openBracket]
        ⟨.brackets, parens, rest'⟩ := by
  have h : Passes ⟨mode, parens, gap ++ (".".toList ++ rest)⟩ _ := h
  obtain ⟨mode', next, parens', hover, hread, hp⟩ := h.exists_reads hg hw
  obtain ⟨rfl, rfl, rfl⟩ := hread.dot
  refine ⟨hp, fun rest' => ?_⟩
  have hopens : opensSegment ((gap ++ '[' :: rest').dropWhile isBlank) =
      opensSegment ((gap ++ '.' :: rest).dropWhile isBlank) := by
    rw [hg.dropWhile, hg.dropWhile]
    rfl
  have hhover := Leads.of_handsOver (HandsOver.chain_congr hover hopens)
  apply hhover.trans
  apply Leads.blanks hg
  exact leads_openBracket (.inl rfl)

/-- Where two dots are read, a bracket can be opened behind them. -/
theorem Passes.doubleDot (hg : Blanks gap) (hw : words ≠ [])
    (h : Passes ⟨mode, parens, gap ++ '.' :: '.' :: rest⟩ ((.doubleDot, "..") :: words)) :
    Passes ⟨.descendant, parens, rest⟩ words ∧
      ∀ rest', Leads ⟨mode, parens, gap ++ '.' :: '.' :: '[' :: rest'⟩ [.doubleDot, .openBracket]
        ⟨.brackets, parens, rest'⟩ := by
  have h : Passes ⟨mode, parens, gap ++ ("..".toList ++ rest)⟩ _ := h
  obtain ⟨mode', next, parens', hover, hread, hp⟩ := h.exists_reads hg hw
  obtain ⟨rfl, rfl, rfl⟩ := hread.doubleDot
  refine ⟨hp, fun rest' => ?_⟩
  have hopens : opensSegment ((gap ++ '.' :: '.' :: '[' :: rest').dropWhile isBlank) =
      opensSegment ((gap ++ '.' :: '.' :: rest).dropWhile isBlank) := by
    rw [hg.dropWhile, hg.dropWhile]
    rfl
  have hhover := Leads.of_handsOver (HandsOver.chain_congr hover hopens)
  apply hhover.trans
  apply Leads.blanks hg
  exact leads_doubleDot.cons (leads_openBracket (.inr rfl))

/-- The rewritten text is read up to its end, too, and makes the tokens of the other notation. -/
theorem Passes.rewritten (hr : Rewritten words text text')
    (h : Passes ⟨mode, parens, text⟩ words) :
    ∃ ks parens' rest, Grammar.Bracketed (words.map Prod.fst) ks ∧
      Leads ⟨mode, parens, text'⟩ ks ⟨.done, parens', rest⟩ := by
  induction hr generalizing mode parens with
  | last w text =>
    obtain ⟨parens', rest, hl⟩ := h.leads
    exact ⟨_, parens', rest, .keep _ .nil, hl⟩
  | @keep w words gap rest rest' hg more ih =>
    obtain ⟨mode', next, parens', hover, hread, hp⟩ := h.exists_reads hg more.ne_nil
    obtain ⟨ks, parens'', left, hb, hl⟩ := ih hp
    have hopens := (Rewritten.keep (w := w) hg more).opensSegment
    have hhover := Leads.of_handsOver (HandsOver.chain_congr hover hopens)
    have hborders : Borders w.1 rest rest' := by
      apply more.startsAlike.borders
      intro name hk
      rw [hk] at hread
      exact hread.call
    exact ⟨_, parens'', left, .keep w.1 hb, hhover.trans ((hread.leads hg hborders).cons hl)⟩
  | @bare w words gap inner rest rest' boxed hg hi hbox more ih =>
    obtain ⟨hshorthand, hopened⟩ := h.dot hg (by simp)
    obtain ⟨next, parens', hread, hp⟩ :=
      hshorthand.exists_reads_here (by decide) (by decide) hi more.ne_nil
    obtain ⟨rfl, rfl, k, hk, hboxed⟩ := hbox.leads (.inl rfl) hread
    obtain ⟨ks, parens'', left, hb, hl⟩ := ih hp
    exact ⟨_, parens'', left, .bare hk hb, (hopened _).trans ((hboxed rest').trans hl)⟩
  | @descendant w words gap inner rest rest' boxed hg hi hbox more ih =>
    obtain ⟨hdescendant, hopened⟩ := h.doubleDot hg (by simp)
    obtain ⟨next, parens', hread, hp⟩ :=
      hdescendant.exists_reads_here (by decide) (by decide) hi more.ne_nil
    obtain ⟨rfl, rfl, k, hk, hboxed⟩ := hbox.leads (.inr rfl) hread
    obtain ⟨ks, parens'', left, hb, hl⟩ := ih hp
    exact ⟨_, parens'', left, .descendant hk hb, (hopened _).trans ((hboxed rest').trans hl)⟩
  | @call name args words gap inner call rest rest' hg hi hargs hcall more ih =>
    obtain ⟨hshorthand, hopened⟩ := h.dot hg (by simp)
    obtain ⟨next, parens', hread, harguments⟩ :=
      hshorthand.exists_reads_here (by decide) (by decide) hi (by simp)
    obtain ⟨rfl, rfl, hfunction⟩ := hread.function
    obtain ⟨hp, hcalled⟩ := hcall.leads hargs more.ne_nil harguments
    obtain ⟨ks, parens'', left, hb, hl⟩ := ih hp
    have hborders : Borders (.function name) (call ++ ')' :: rest)
        (call ++ ')' :: ']' :: rest') := by
      left
      cases call <;> rfl
    have hname := hfunction.leads (show Blanks [] by decide) hborders
    have hinside := (hcalled (']' :: rest')).trans (leads_closeBracket.cons hl)
    have hclose : .closeParen ∉ args.map Prod.fst := by
      intro hm
      obtain ⟨w, hw, hk⟩ := List.mem_map.1 hm
      exact hargs w hw hk
    simp only [List.map_cons, List.map_append]
    refine ⟨_, parens'', left, .call hclose hb, ?_⟩
    have hall := (hopened _).trans (hname.cons hinside)
    simpa using hall

end

end Lexer

namespace Query
open Lexer

/-- The tokens of an accepted text are those of a query and the end of it. -/
theorem exists_kinds_of_parse [Pattern.Engine] {env : Environment} {text : String} {q : Query}
    (h : parse env text = .ok q) :
    ∃ ts ks, lex text = .ok ts ∧ ts.map Token.kind = ks ++ [.endOfQuery] ∧
      Grammar.Text env ks q := by
  simp only [parse, bind_eq_ok] at h
  obtain ⟨ts, hl, h⟩ := h
  obtain ⟨used, rest, rfl, hpeek, hq⟩ := ofTokens_sound (lex_shaped hl) h
  obtain ⟨front, last, hfront, hlast, hinside⟩ := exists_front_of_lex hl
  have hkinds : used.map Token.kind ++ rest.map Token.kind =
      front.map Token.kind ++ .endOfQuery :: [] := by
    rw [← List.map_append, hfront, List.map_append, List.map_singleton, hlast]
  have hused := endOfQuery_notMem_text hq
  refine ⟨_, used.map Token.kind, hl, ?_, hq⟩
  rw [List.map_append]
  cases rest with
  | nil =>
    rw [List.map_nil, List.append_nil] at hkinds
    exact absurd (hkinds ▸ by simp) hused
  | cons t rest =>
    have ht : t.kind = .endOfQuery := hpeek
    rw [List.map_cons, ht] at hkinds ⊢
    have hfront : .endOfQuery ∉ front.map Token.kind := by
      intro hm
      obtain ⟨u, hu, hk⟩ := List.mem_map.1 hm
      exact hinside u hu hk
    obtain ⟨-, hrest⟩ := Grammar.append_cons_inj hused hfront hkinds
    rw [hrest]

/-- Dots and brackets mean the same: whichever selections of an accepted text are put between
brackets, the text is accepted and parsed into the same query. -/
theorem parse_rewritten [Pattern.Engine] {env : Environment} {text text' : String} {q : Query}
    (h : parse env text = .ok q)
    (hr : Rewritten ((tokenize text).map Token.word) text.toList text'.toList) :
    parse env text' = .ok q := by
  obtain ⟨ts, ks, hl, hkinds, hq⟩ := exists_kinds_of_parse h
  rw [tokenize_of_lex hl] at hr
  have passes := passes_of_lex hl
  obtain ⟨ks', parens, rest, hb, hleads⟩ :=
    passes.rewritten (hr.cut (passes.nul_notMem (nul_notMem_visible text)))
  have hwords : (ts.map Token.word).map Prod.fst = ks ++ [.endOfQuery] := by
    rw [List.map_map]
    exact hkinds
  rw [hwords] at hb
  obtain ⟨ks', last, rfl, hq', hlast⟩ := Grammar.text_keeps hq _ _ hb
  obtain ⟨_, rfl, hnil⟩ := hlast.of_undotted rfl
  cases hnil
  exact parse_of_text (tokenize_of_leads hleads) hq'

theorem parse_rewritten_everywhere :
    parse .standard "$..a[?@.keys().b]" = .ok ⟨[.recursive, .field "a",
        .filter (.present (.mk .current [.function "keys" [], .field "b"]))]⟩ ∧
      Rewritten ((tokenize "$..a[?@.keys().b]").map Token.word)
        "$..a[?@.keys().b]".toList "$..['a'][?@[keys()]['b']]".toList ∧
      parse .standard "$..['a'][?@[keys()]['b']]" = .ok ⟨[.recursive, .field "a",
        .filter (.present (.mk .current [.function "keys" [], .field "b"]))]⟩ := by
  have words : (tokenize "$..a[?@.keys().b]").map Token.word = [(.root, "$"), (.doubleDot, ".."),
      (.name "a", "a"), (.openBracket, "["), (.question, "?"), (.current, "@"), (.dot, "."),
      (.function "keys", "keys"), (.openParen, "("), (.closeParen, ")"), (.dot, "."),
      (.name "b", "b"), (.closeBracket, "]"), (.endOfQuery, "")] := by
    decide
  have subpath : Grammar.Path .standard 63 [.dot, .function "keys", .openParen, .closeParen, .dot,
      .name "b"] [.function "keys" [], .field "b"] :=
    .shorthand (.call (.empty rfl)) (.shorthand (.bare (.name "b")) .nil)
  have accepted : parse .standard "$..a[?@.keys().b]" = .ok ⟨[.recursive, .field "a",
      .filter (.present (.mk .current [.function "keys" [], .field "b"]))]⟩ := by
    have filter := Grammar.Selection.filter (.one (.one (.present .current subpath)))
    have derived := Grammar.Text.root (.descendant (.bare (.name "a")) (.selection filter .nil))
    have kinds := congrArg (List.map Prod.fst) words
    rw [List.map_map] at kinds
    refine parse_of_text ?_ derived
    exact kinds
  have empty : Blanks [] := by decide
  have rewritten : Rewritten ((tokenize "$..a[?@.keys().b]").map Token.word)
      "$..a[?@.keys().b]".toList "$..['a'][?@[keys()]['b']]".toList := by
    rw [words]
    refine .keep empty ?_
    refine .descendant empty empty (.name "a") ?_
    refine .keep empty (.keep empty (.keep empty ?_))
    have parens : Spelled [(.openParen, "(")] ['('] := .cons empty (.nil empty)
    refine .call empty empty (by simp) parens ?_
    refine .bare empty empty (.name "b") ?_
    exact .keep empty (.last _ _)
  exact ⟨accepted, rewritten, parse_rewritten accepted rewritten⟩

end Query

end PathQuery
