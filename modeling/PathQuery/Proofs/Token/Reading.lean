import PathQuery.Proofs.Token.Passage

/-! What is read behind a dot, and how the same is read between brackets. -/
namespace PathQuery
open Token

namespace Lexer
open Scan

/-- Only in front of a parenthesis does a word become the name of a function. -/
def Action.Calls (text : List Char) : Action → Prop
  | .emit (.function _) length _ _ => isCall text length = true
  | _ => True

section
variable {mode next : Mode} {parens parens' : List Nat} {here : Position} {text rest : List Char}
  {kind : Kind} {lexeme s : String} {length : Nat}

theorem stringToken_calls {quote : Quote} :
    (stringToken mode parens here text quote).Calls text := by
  unfold stringToken ofResult
  split <;> trivial

theorem numberToken_calls : (numberToken mode parens text).Calls text := by
  unfold numberToken ofResult
  split
  next r _ =>
    obtain ⟨_, isFloat⟩ := r
    cases isFloat <;> trivial
  · trivial

theorem regexToken_calls : (regexToken parens here text).Calls text := by
  unfold regexToken ofResult
  split <;> trivial

theorem word_calls (next : Mode) (word : String) :
    (Action.emit (wordKind word (isCall text length)) length next parens).Calls text := by
  unfold wordKind
  split
  case h_7 =>
    split
    · assumption
    · trivial
  all_goals trivial

theorem segmentAction_calls : (segmentAction parens text).Calls text := by
  unfold segmentAction
  split
  case h_4 =>
    split
    · trivial
    · split <;> trivial
  all_goals trivial

theorem descendantAction_calls : (descendantAction parens text).Calls text := by
  unfold descendantAction
  split
  case h_3 => split <;> trivial
  all_goals trivial

theorem shorthandAction_calls : (shorthandAction parens text).Calls text := by
  unfold shorthandAction
  split
  · trivial
  · dsimp only
    split
    · split
      · assumption
      · trivial
    · trivial

theorem bracketsAction_calls : (bracketsAction parens here text).Calls text := by
  unfold bracketsAction
  split
  case h_9 | h_10 => exact stringToken_calls
  case h_11 =>
    dsimp only
    split
    · exact numberToken_calls
    · split
      · split
        · assumption
        · trivial
      · trivial
  all_goals trivial

theorem argumentsAction_calls : (argumentsAction parens here text).Calls text := by
  unfold argumentsAction
  split
  case h_5 | h_6 => exact stringToken_calls
  case h_7 =>
    split
    · exact numberToken_calls
    · trivial
  all_goals trivial

theorem filterAction_calls : (filterAction parens here text).Calls text := by
  unfold filterAction
  split
  case h_2 | h_4 => split <;> trivial
  case h_5 | h_6 => exact stringToken_calls
  case h_24 =>
    dsimp only
    split
    · exact numberToken_calls
    · split
      · exact word_calls .filter _
      · trivial
  all_goals trivial

theorem Mode.action_calls (mode : Mode) : (mode.action parens here text).Calls text := by
  cases mode with
  | root =>
    show (rootAction parens text).Calls text
    unfold rootAction
    split <;> trivial
  | segment => exact segmentAction_calls
  | descendant => exact descendantAction_calls
  | shorthand => exact shorthandAction_calls
  | brackets => exact bracketsAction_calls
  | arguments => exact argumentsAction_calls
  | filter => exact filterAction_calls
  | regex =>
    show (regexAction parens here text).Calls text
    unfold regexAction
    split
    · exact regexToken_calls
    · trivial
  | done | failed => trivial

theorem Reads.call (h : Reads mode parens (.function s) lexeme rest next parens') :
    rest.head? = some '(' := by
  have hcalls : (mode.action parens {} (lexeme.toList ++ rest)).Calls (lexeme.toList ++ rest) :=
    mode.action_calls
  rw [h.action rest (.refl _ rest)] at hcalls
  have hcall : isCall (lexeme.toList ++ rest) lexeme.toList.length = true := hcalls
  rw [isCall, List.drop_left] at hcall
  exact of_decide_eq_true hcall

/-! Names, stars and calls -/

theorem isName_of_front {front : List Char} (hn : isNameFirst (peek (front ++ rest)) = true)
    (hlen : nameLength (front ++ rest) = front.length) : IsName front := by
  have hpos := (nameLength_pos hn).1
  rw [hlen] at hpos
  obtain ⟨c, more, rfl⟩ := List.exists_cons_of_ne_nil (List.ne_nil_of_length_pos hpos)
  obtain ⟨hchars, -⟩ := takeWhile_spec hlen
  exact ⟨c, more, rfl, hn, fun d hd => hchars d (List.mem_cons_of_mem _ hd)⟩

/-- Modes in which a bare name or a star selects. -/
def Mode.TakesBare (mode : Mode) : Prop := mode = .shorthand ∨ mode = .descendant

theorem Reads.name (h : Reads mode parens (.name s) lexeme rest next parens')
    (hm : mode.TakesBare) : IsName lexeme.toList ∧ next = .segment ∧ parens' = parens := by
  have ha := h.action rest (.refl _ rest) {}
  rcases hm with rfl | rfl
  · have ha : shorthandAction parens (lexeme.toList ++ rest) = _ := ha
    unfold shorthandAction at ha
    split at ha
    · cases ha
    · dsimp only at ha
      split at ha
      next hn =>
        split at ha
        · cases ha
        · obtain ⟨-, hlen, rfl, rfl⟩ := Action.emit.inj ha
          exact ⟨isName_of_front hn hlen, rfl, rfl⟩
      · cases ha
  · have ha : descendantAction parens (lexeme.toList ++ rest) = _ := ha
    unfold descendantAction at ha
    split at ha
    case h_3 =>
      split at ha
      next hn =>
        obtain ⟨-, hlen, rfl, rfl⟩ := Action.emit.inj ha
        exact ⟨isName_of_front hn hlen, rfl, rfl⟩
      · cases ha
    all_goals cases ha

theorem Reads.star (h : Reads mode parens .star "*" rest next parens') (hm : mode.TakesBare) :
    next = .segment ∧ parens' = parens := by
  have ha := h.action rest (.refl _ rest) {}
  have ha : mode.action parens {} ('*' :: rest) = .emit .star 1 next parens' := ha
  rcases hm with rfl | rfl
  · cases ha
    exact ⟨rfl, rfl⟩
  · cases ha
    exact ⟨rfl, rfl⟩

theorem Reads.dot (h : Reads mode parens .dot "." rest next parens') :
    mode = .segment ∧ next = .shorthand ∧ parens' = parens := by
  have ha := h.action rest (.refl _ rest) {}
  have ha : mode.action parens {} ('.' :: rest) = .emit .dot 1 next parens' := ha
  cases mode with
  | segment =>
    have ha : segmentAction parens ('.' :: rest) = _ := ha
    unfold segmentAction at ha
    split at ha
    case h_2 =>
      cases ha
      exact ⟨rfl, rfl, rfl⟩
    case h_4 _ hdot _ => exact absurd rfl (hdot rest)
    all_goals cases ha
  | _ => cases ha

theorem Reads.doubleDot (h : Reads mode parens .doubleDot ".." rest next parens') :
    mode = .segment ∧ next = .descendant ∧ parens' = parens := by
  have ha := h.action rest (.refl _ rest) {}
  have ha : mode.action parens {} ('.' :: '.' :: rest) = .emit .doubleDot 2 next parens' := ha
  cases mode with
  | segment =>
    cases ha
    exact ⟨rfl, rfl, rfl⟩
  | _ => cases ha

/-! Between brackets -/

theorem shorthandAction_function (here : Position)
    (h : shorthandAction parens text = .emit (.function s) length next parens') :
    next = .arguments ∧ parens' = parens ∧
      bracketsAction parens here text = .emit (.function s) length .brackets parens := by
  unfold shorthandAction at h
  split at h
  · cases h
  · dsimp only at h
    split at h
    next hn =>
      split at h
      next hcall =>
        obtain ⟨hname, rfl, rfl, rfl⟩ := Action.emit.inj h
        rw [bracketsAction_call hn hcall, hname]
        exact ⟨rfl, rfl, rfl⟩
      · cases h
    · cases h

theorem stringToken_emit {quote : Quote}
    (h : stringToken mode parens here text quote = .emit kind length next parens') :
    kind ≠ .closeParen ∧ next = mode ∧ parens' = parens ∧
      stringToken .brackets parens here text quote = .emit kind length .brackets parens := by
  unfold stringToken ofResult at h ⊢
  split at h
  · cases h
    exact ⟨nofun, rfl, rfl, rfl⟩
  · cases h

theorem numberToken_emit (h : numberToken mode parens text = .emit kind length next parens') :
    kind ≠ .closeParen ∧ next = mode ∧ parens' = parens ∧
      numberToken .brackets parens text = .emit kind length .brackets parens := by
  unfold numberToken ofResult at h ⊢
  split at h
  next r _ =>
    obtain ⟨_, isFloat⟩ := r
    cases h
    refine ⟨?_, rfl, rfl, rfl⟩
    cases isFloat <;> nofun
  · cases h

/-- What an argument behind a dot is, it is between brackets, where only the bracket ends the
selection. -/
theorem argumentsAction_emit
    (h : argumentsAction parens here text = .emit kind length next parens') :
    parens' = parens ∧ (kind = .closeParen ∧ next = .segment ∨
        kind ≠ .closeParen ∧ next = .arguments) ∧
      bracketsAction parens here text = .emit kind length .brackets parens := by
  unfold argumentsAction at h
  split at h
  case h_1 => cases h
  case h_3 =>
    cases h
    exact ⟨rfl, .inl ⟨rfl, rfl⟩, rfl⟩
  case h_2 | h_4 =>
    cases h
    exact ⟨rfl, .inr ⟨nofun, rfl⟩, rfl⟩
  case h_5 | h_6 =>
    obtain ⟨hk, rfl, rfl, hstring⟩ := stringToken_emit h
    exact ⟨rfl, .inr ⟨hk, rfl⟩, hstring⟩
  case h_7 c rest _ _ _ _ _ =>
    split at h
    next hc =>
      obtain ⟨hk, rfl, rfl, hnumber⟩ := numberToken_emit h
      have hbegins : beginsNumber (c :: rest) := ⟨c, rfl, hc⟩
      exact ⟨rfl, .inr ⟨hk, rfl⟩, (action_number (.inl rfl) here hbegins).trans hnumber⟩
    · cases h

theorem Reads.function (h : Reads .shorthand parens (.function s) lexeme rest next parens') :
    next = .arguments ∧ parens' = parens ∧
      Reads .brackets parens (.function s) lexeme rest .brackets parens := by
  obtain ⟨hnext, hparens, -⟩ := shorthandAction_function {} (h.action rest (.refl _ rest) {})
  refine ⟨hnext, hparens, rfl, h.no_blank, fun rest' hb here => ?_⟩
  exact (shorthandAction_function here (h.action rest' hb here)).2.2

theorem Reads.argument (h : Reads .arguments parens kind lexeme rest next parens') :
    parens' = parens ∧ (kind = .closeParen ∧ next = .segment ∨
        kind ≠ .closeParen ∧ next = .arguments) ∧
      Reads .brackets parens kind lexeme rest .brackets parens := by
  obtain ⟨hparens, hnext, -⟩ := argumentsAction_emit (h.action rest (.refl _ rest) {})
  refine ⟨hparens, hnext, rfl, h.no_blank, fun rest' hb here => ?_⟩
  exact (argumentsAction_emit (h.action rest' hb here)).2.2

/-! From one spot to the next -/

variable {gap rest' : List Char} {mode' : Mode} {words : List (Kind × String)}

theorem Reads.leads (h : Reads mode parens kind lexeme rest next parens') (hg : Blanks gap)
    (hb : Borders kind rest rest') :
    Leads ⟨mode, parens, gap ++ (lexeme.toList ++ rest')⟩ [kind] ⟨next, parens', rest'⟩ := by
  have hdrop : (gap ++ (lexeme.toList ++ rest')).dropWhile isBlank = lexeme.toList ++ rest' := by
    rw [hg.dropWhile, h.no_blank]
  have hl : Leads ⟨mode, parens, gap ++ (lexeme.toList ++ rest')⟩ [kind]
      ⟨next, parens', ((gap ++ (lexeme.toList ++ rest')).dropWhile isBlank).drop
        lexeme.toList.length⟩ :=
    .emit h.not_final (by rw [hdrop]; exact h.action rest' hb)
  rwa [hdrop, List.drop_left] at hl

theorem Leads.of_handsOver (h : Relation.ReflTransGen (HandsOver parens text) mode mode') :
    Leads ⟨mode, parens, text⟩ [] ⟨mode', parens, text⟩ := by
  induction h with
  | refl => exact .refl _
  | tail _ h ih => exact ih.trans (.handOver h.1 h.2)

theorem Leads.blanks {t : Spot} {ks : List Kind} (hg : Blanks gap)
    (h : Leads ⟨mode, parens, text⟩ ks t) : Leads ⟨mode, parens, gap ++ text⟩ ks t := by
  induction gap with
  | nil => exact h
  | cons c gap ih =>
    obtain ⟨hc, hg⟩ := List.forall_mem_cons.1 hg
    exact .blank hc (ih hg)

theorem Passes.leads {spot : Spot} (h : Passes spot words) :
    ∃ parens rest, Leads spot (words.map Prod.fst) ⟨.done, parens, rest⟩ := by
  induction h with
  | done => exact ⟨_, _, .refl _⟩
  | token hf ha _ ih =>
    obtain ⟨parens, rest, hl⟩ := ih
    exact ⟨parens, rest, .cons (.emit hf ha) hl⟩
  | handOver hf ha _ ih =>
    obtain ⟨parens, rest, hl⟩ := ih
    exact ⟨parens, rest, .trans (.handOver hf ha) hl⟩

/-- Only along a path is the text handed over. -/
theorem Passes.exists_reads_here (hs : mode ≠ .segment) (hf : mode ≠ .filter) (hg : Blanks gap)
    (hw : words ≠ [])
    (h : Passes ⟨mode, parens, gap ++ (lexeme.toList ++ rest)⟩ ((kind, lexeme) :: words)) :
    ∃ next parens', Reads mode parens kind lexeme rest next parens' ∧
      Passes ⟨next, parens', rest⟩ words := by
  obtain ⟨mode', next, parens', hover, hread, hp⟩ := h.exists_reads hg hw
  rcases hover.cases_head with rfl | ⟨_, hfirst, -⟩
  · exact ⟨next, parens', hread, hp⟩
  · rcases hfirst.modes with ⟨hm, -⟩ | ⟨hm, -⟩
    · exact absurd hm hs
    · exact absurd hm hf

end

end Lexer

end PathQuery
