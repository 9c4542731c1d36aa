import PathQuery.Proofs.Node.Inverted

/-! The lexer on a path inside out: whatever token it takes off, the rest is inside out again, so it
never comes to the end. -/
namespace PathQuery
open Token Scan

namespace Lexer

/-- What a token takes off a text: a string, a pattern with its flags, or neither quotes nor
backslashes. -/
def Takes (text : List Char) (length : Nat) : Prop :=
  Plain (text.take length) ∨
    (∃ quote opened more, text = Quote.char quote :: more ∧
      Scan.string (Quote.char quote) opened 1 more = .ok length) ∨
    ∃ opened more n, text = '/' :: more ∧ Scan.regex opened 1 more = .ok n ∧
      length = n + ((text.drop n).takeWhile isFlag).length

def Action.Takes (text : List Char) : Action → Prop
  | .emit _ length _ _ => Lexer.Takes text length
  | _ => True

theorem Takes.inverted {text : List Char} {length : Nat} (ht : Takes text length)
    (h : Inverted text) : Inverted (text.drop length) := by
  rcases ht with hp | ⟨quote, opened, more, rfl, hs⟩ | ⟨opened, more, n, rfl, hr, rfl⟩
  · exact h.drop hp
  · have hl := string_length hs
    have hc := Closes.of_string hs
    rw [show length = length - 1 + 1 by omega, List.drop_succ_cons]
    cases quote with
    | single => exact h.of_quote hc
    | double =>
      obtain ⟨front, hfront⟩ := hc.eq_append
      have htext : '"' :: more = ('"' :: front) ++ '"' :: more.drop (length - 1) :=
        congrArg ('"' :: ·) hfront
      exact h.of_delimiter htext (.inl rfl)
  · have hl := (regex_slashless hr).1
    obtain ⟨front, hfront⟩ := exists_of_regex hr
    have hrest : Inverted (('/' :: more).drop n) := by
      have htext : '/' :: more = ('/' :: front) ++ '/' :: more.drop (n - 1) :=
        congrArg ('/' :: ·) hfront
      rw [show n = n - 1 + 1 by omega, List.drop_succ_cons]
      exact h.of_delimiter htext (.inr rfl)
    rw [← List.drop_drop]
    apply hrest.drop
    exact .takeWhile (by decide) (by decide)

section
variable {next : Mode} {parens : List Nat} {here : Position} {text rest : List Char} {c : Char}

theorem Action.Takes.token {kind : Kind} (hc : c ≠ '\'' ∧ c ≠ '\\') :
    (Action.emit kind 1 next parens).Takes (c :: rest) :=
  .inl (by simpa [Plain] using hc)

theorem Action.Takes.token₂ {kind : Kind} {d : Char} (hc : c ≠ '\'' ∧ c ≠ '\\')
    (hd : d ≠ '\'' ∧ d ≠ '\\') : (Action.emit kind 2 next parens).Takes (c :: d :: rest) :=
  .inl (by simpa [Plain] using ⟨hc, hd⟩)

theorem Action.Takes.name {kind : Kind} :
    (Action.emit kind (nameLength text) next parens).Takes text := by
  left
  exact .takeWhile (by decide) (by decide)

theorem stringToken_takes (quote : Quote) :
    (stringToken next parens here (quote.char :: rest) quote).Takes (quote.char :: rest) := by
  unfold stringToken ofResult
  split
  next length hl => exact .inr (.inl ⟨quote, here, rest, rfl, hl⟩)
  · trivial

theorem numberToken_takes : (numberToken next parens text).Takes text := by
  unfold numberToken ofResult
  split
  next r hr => exact .inl (Plain.number hr)
  · trivial

theorem rootAction_takes : (rootAction parens text).Takes text := by
  unfold rootAction
  split
  · exact .token (by decide)
  · trivial

theorem segmentAction_takes : (segmentAction parens text).Takes text := by
  unfold segmentAction
  split
  case h_1 => exact .token₂ (by decide) (by decide)
  case h_4 =>
    split
    · trivial
    · split
      · exact .inl (by simp [Plain])
      · trivial
  all_goals exact .token (by decide)

theorem descendantAction_takes : (descendantAction parens text).Takes text := by
  unfold descendantAction
  split
  case h_3 =>
    split
    · exact .name
    · trivial
  all_goals exact .token (by decide)

theorem shorthandAction_takes : (shorthandAction parens text).Takes text := by
  unfold shorthandAction
  split
  · exact .token (by decide)
  · dsimp only
    split
    · split <;> exact .name
    · trivial

theorem bracketsAction_takes : (bracketsAction parens here text).Takes text := by
  unfold bracketsAction
  split
  case h_1 => trivial
  case h_9 => exact stringToken_takes .single
  case h_10 => exact stringToken_takes .double
  case h_11 =>
    dsimp only
    split
    · exact numberToken_takes
    · split
      · split
        · exact .name
        · trivial
      · trivial
  all_goals exact .token (by decide)

theorem argumentsAction_takes : (argumentsAction parens here text).Takes text := by
  unfold argumentsAction
  split
  case h_1 => trivial
  case h_5 => exact stringToken_takes .single
  case h_6 => exact stringToken_takes .double
  case h_7 =>
    split
    · exact numberToken_takes
    · trivial
  all_goals exact .token (by decide)

theorem filterAction_takes : (filterAction parens here text).Takes text := by
  unfold filterAction
  split
  case h_1 | h_9 | h_10 | h_21 | h_23 => trivial
  case h_2 | h_4 => split <;> first | trivial | exact .token (by decide)
  case h_5 => exact stringToken_takes .single
  case h_6 => exact stringToken_takes .double
  case h_24 =>
    dsimp only
    split
    · exact numberToken_takes
    · split
      · exact .name
      · trivial
  case h_11 | h_13 | h_14 | h_16 | h_18 | h_20 | h_22 => exact .token₂ (by decide) (by decide)
  all_goals exact .token (by decide)

theorem regexAction_takes : (regexAction parens here text).Takes text := by
  unfold regexAction
  split
  next rest =>
    unfold regexToken ofResult
    split
    next n hn => exact .inr (.inr ⟨here, rest, n, rfl, hn, rfl⟩)
    · trivial
  · trivial

theorem Mode.action_takes (mode : Mode) : (mode.action parens here text).Takes text := by
  cases mode with
  | root => exact rootAction_takes
  | segment => exact segmentAction_takes
  | descendant => exact descendantAction_takes
  | shorthand => exact shorthandAction_takes
  | brackets => exact bracketsAction_takes
  | arguments => exact argumentsAction_takes
  | filter => exact filterAction_takes
  | regex => exact regexAction_takes
  | done | failed => trivial

end

namespace Machine
variable {m : Machine}

/-- The lexer has failed, or it is on its way through a path inside out. -/
def Lost (m : Machine) : Prop :=
  m.mode = .failed ∨
    m.mode.isFinal = false ∧ (∃ p, m.Stands p) ∧ Inverted m.cursor.rest

theorem inverted_skipBlank {c : Cursor} (h : Inverted c.rest) : Inverted c.skipBlank.rest := by
  rw [Cursor.skipBlank, Cursor.rest_advance]
  apply h.drop
  exact .takeWhile (by decide) (by decide)

theorem step_lost (h : m.Lost) : m.step.Lost := by
  rcases h with hf | ⟨hf, ⟨p, hp⟩, h⟩
  · left
    rw [step, if_pos (by rw [hf]; rfl)]
    exact hf
  have hskip := inverted_skipBlank h
  have ha := hp.action_follows hf
  have ht := @Mode.action_takes m.parens m.cursor.skipBlank.position m.cursor.skipBlank.rest m.mode
  unfold step
  rw [if_neg (by simp [hf])]
  dsimp only
  split
  next kind length next parens hk =>
    rw [hk] at ha ht
    obtain ⟨-, hend, q, hq, hs⟩ := ha
    -- The query does not end here: there is text left.
    have hne : q ≠ .ended := by
      intro he
      have htext := (hend ((Place.ended_iff hq).2 he)).1
      obtain ⟨inside, l, -, hinside⟩ := hskip
      rw [htext] at hinside
      simp at hinside
    refine .inr ⟨hs.not_final hne, ⟨q, ?_⟩, ?_⟩
    · unfold Stands
      rwa [Cursor.rest_advance]
    · rw [Cursor.rest_advance]
      exact Takes.inverted ht hskip
  next next hk =>
    rw [hk] at ha
    have hne : p ≠ .ended := by
      intro he
      simp [hp.isFinal_iff.2 he] at hf
    exact .inr ⟨ha.not_final hne, ⟨p, ha⟩, hskip⟩
  · exact .inl rfl

/-- There is no way out of a path inside out. -/
theorem Lost.run (h : m.Lost) (n : Nat) : (m.run n).Lost := by
  induction n generalizing m with
  | zero => exact h
  | succ n ih =>
    rw [run_succ]
    exact ih (step_lost h)

theorem Lost.not_done (h : m.Lost) : m.mode ≠ .done := by
  intro hd
  rcases h with hf | ⟨hf, -⟩
  · rw [hd] at hf
    cases hf
  · rw [hd] at hf
    cases hf

/-- In front of a string, the lexer passes it or fails. -/
theorem step_string {parens : List Nat} {text : List Char}
    (h : m.At ⟨.brackets, parens, '\'' :: text⟩) :
    m.step.mode = .failed ∨ m.step.mode = .brackets ∧ Closes '\'' text m.step.cursor.rest := by
  obtain ⟨hm, -, htext⟩ := h
  have hrest : m.cursor.skipBlank.rest = '\'' :: text := by
    rw [Cursor.rest_skipBlank, htext]
    rfl
  have haction (here : Position) : m.mode.action m.parens here ('\'' :: text) =
      stringToken .brackets m.parens here ('\'' :: text) .single := by
    rw [hm]
    rfl
  unfold step
  rw [if_neg (by simp [hm, Mode.isFinal])]
  dsimp only
  rw [hrest, haction]
  unfold stringToken ofResult
  cases hs : Scan.string Quote.single.char m.cursor.skipBlank.position 1
      (('\'' :: text).drop 1) with
  | error e => exact .inl rfl
  | ok length =>
    have hl := string_length hs
    have hc : Closes '\'' text (text.drop (length - 1)) := Closes.of_string hs
    refine .inr ⟨rfl, ?_⟩
    show Closes '\'' text (m.cursor.skipBlank.advance length).rest
    rw [Cursor.rest_advance, hrest, show length = length - 1 + 1 by omega]
    exact hc

/-- A name of a path is read up to its quote, or else the lexer is lost behind it. -/
theorem quotable_or_lost {parens : List Nat} {cs : List Char} {l : Location}
    (h : m.At ⟨.brackets, parens, '\'' :: (pathName cs ++ '\'' :: ']' :: stepsText l)⟩) :
    Quotable '\'' (pathName cs) ∨ m.step.Lost := by
  rcases step_string h with hf | ⟨hm, hc⟩
  · exact .inr (.inl hf)
  · refine (quotable_or_inverted cs hc).imp id fun hinverted => .inr ⟨?_, ⟨.brackets, ?_⟩, hinverted⟩
    · rw [hm]
      rfl
    · unfold Stands
      rw [hm]
      exact .brackets

end Machine

section
variable {text : String} {ts : List Token}

/-- However far the lexer is, it comes to the same end from there. -/
theorem run_from (text : String) (n : Nat) :
    ((start text).run n).run (2 * (visible text).length + 2) =
      (start text).run (2 * (visible text).length + 2) := by
  rw [← Machine.run_add, Nat.add_comm, Machine.run_add,
    Machine.run_of_isFinal (start_run_isFinal text)]

theorem not_lost_of_lex (h : lex text = .ok ts) (n : Nat) : ¬ ((start text).run n).Lost := by
  intro hl
  apply (hl.run (2 * (visible text).length + 2)).not_done
  rw [run_from]
  exact done_of_lex h

/-- The tokens of a text begin with those that lead into it. -/
theorem exists_kinds_of_leads (h : lex text = .ok ts) {ks : List Kind} {parens : List Nat}
    {rest : List Char} (hl : Leads ⟨.root, [], visible text⟩ ks ⟨.segment, parens, rest⟩) :
    ∃ more, ts.map Token.kind = ks ++ more := by
  obtain ⟨n, hn, hk⟩ := hl _ (start_at text)
  have hs : ((start text).run n).Stands .path := by
    unfold Machine.Stands
    rw [hn.1]
    exact .segment
  have hd := done_of_lex h
  rw [← run_from text n] at hd
  obtain ⟨more, hmore, -⟩ := Machine.run_course hs hd
  refine ⟨more.map Token.kind, ?_⟩
  rw [← tokenize_of_lex h, tokenize_eq_run, ← run_from text n, hmore, List.reverse_append,
    List.reverse_reverse, List.map_append, List.map_reverse]
  show ((start text).run n).kinds.reverse ++ _ = _
  rw [hk]
  simp [Machine.kinds, start]

end

end Lexer

namespace Location
open Lexer

variable {l pre post : Location} {name : String} {ts : List Token}

theorem toList_text (l : Location) : (text l).toList = '$' :: stepsText l := by
  simp [text, stepsText, List.flatMap_map]

theorem nul_notMem_text (h0 : ∀ s ∈ l, s.Lacks '\x00') : '\x00' ∉ (text l).toList := by
  rw [toList_text]
  intro hm
  rcases List.mem_cons.1 hm with hm | hm
  · simp at hm
  obtain ⟨s, hs, hm⟩ := List.mem_flatMap.1 hm
  cases s with
  | item i =>
    have hdigit := Inverted.isDigit_repr i '\x00'
    simp [Step.text] at hm hdigit
    exact hdigit hm
  | member name =>
    have hname : '\x00' ∉ name.toList := h0 _ hs
    have hm : '\x00' ∈ pathName name.toList := by simpa [Step.text, pathName] using hm
    obtain ⟨c, hc, hm⟩ := List.mem_flatMap.1 hm
    unfold Step.text.escape at hm
    split at hm
    · simp at hm
    · exact hname (List.mem_singleton.1 hm ▸ hc)

theorem visible_text (h0 : ∀ s ∈ l, s.Lacks '\x00') :
    Lexer.visible (text l) = '$' :: stepsText l := by
  rw [← toList_text]
  exact List.takeWhile_eq_self_iff.2 fun c hc => by
    simpa using fun h : c = '\x00' => nul_notMem_text h0 (h ▸ hc)

theorem leads_steps [Pattern.Engine] (hf : ∀ s ∈ pre, s.Fits) (hb : ∀ s ∈ pre, s.Lacks '\\')
    (h0 : ∀ s ∈ pre, s.Lacks '\x00') (rest : List Char) :
    Lexer.Leads ⟨.segment, [], stepsText pre ++ rest⟩ (segmentsKinds (pre.map Step.segment))
      ⟨.segment, [], rest⟩ := by
  have htext : (segmentsText (pre.map Step.segment)).toList = stepsText pre := by
    have h := congrArg String.toList (text_query hf hb)
    rw [toList_text, Query.text, String.toList_append] at h
    exact (List.cons.inj h).2
  have derivable : (query pre).Derivable .standard := derivable_query h0
  rw [← htext]
  have writable := derivable.lexable.imp (fun _ _ hs => hs.writable) fun _ hp => hp
  exact leads_segments _ writable (.inl rfl) [] rest

/-- Where a path is not refused, the name behind its first steps is one token, spelled as there. -/
theorem kinds_of_lex [Pattern.Engine] (hf : ∀ s ∈ pre, s.Fits) (hb : ∀ s ∈ pre, s.Lacks '\\')
    (h0 : ∀ s ∈ pre ++ .member name :: post, s.Lacks '\x00')
    (h : lex (text (pre ++ .member name :: post)) = .ok ts) :
    Quotable '\'' (pathName name.toList) ∧ ∃ more, ts.map Token.kind =
      .root :: (segmentsKinds (pre.map Step.segment) ++ .openBracket ::
        .string .single (String.ofList (pathName name.toList)) :: .closeBracket :: more) := by
  have hsteps : stepsText (pre ++ .member name :: post) = stepsText pre ++ '[' :: '\'' ::
      (pathName name.toList ++ '\'' :: ']' :: stepsText post) := by
    rw [← stepsText_member]
    exact List.flatMap_append
  have htext := visible_text h0
  rw [hsteps] at htext
  have hpre := leads_steps hf hb fun s hs => h0 s (List.mem_append_left _ hs)
  have inside : Leads ⟨.root, [], visible (text (pre ++ .member name :: post))⟩
      (.root :: (segmentsKinds (pre.map Step.segment) ++ [.openBracket]))
      ⟨.brackets, [], '\'' :: (pathName name.toList ++ '\'' :: ']' :: stepsText post)⟩ := by
    rw [htext]
    exact leads_root.cons ((hpre _).trans (leads_openBracket (.inl rfl)))
  have quotable : Quotable '\'' (pathName name.toList) := by
    obtain ⟨n, hn, -⟩ := inside _ (start_at _)
    refine (Machine.quotable_or_lost hn).resolve_right fun hl => ?_
    apply not_lost_of_lex h (n + 1)
    rw [Machine.run_add, Machine.run_succ]
    exact hl
  refine ⟨quotable, ?_⟩
  have hname : Leads
      ⟨.brackets, [], '\'' :: (pathName name.toList ++ '\'' :: ']' :: stepsText post)⟩
      ([.string .single (String.ofList (pathName name.toList))] ++ [.closeBracket])
      ⟨.segment, [], stepsText post⟩ :=
    (leads_string (.inl rfl) .single quotable).trans leads_closeBracket
  obtain ⟨more, hmore⟩ := exists_kinds_of_leads h (inside.trans hname)
  exact ⟨more, by simpa using hmore⟩

end Location

end PathQuery
