import PathQuery.Function.Standard
import PathQuery.Proofs.Query.Course
import PathQuery.Proofs.Query.Soundness
import PathQuery.Proofs.Query.Yields

/-! What the parser cannot complain about: the lexer lets no text through in which it is wrong. -/
namespace PathQuery
open Token SyntaxError

/-- What the parser looks out for although no text that passes the lexer has it. -/
def SyntaxError.Cause.Defensive : Cause → Prop
  | .expectedRoot _ | .expectedEnd _ | .expectedArguments .. | .expectedAfterDescendant _
  | .expectedAfterDot _ | .expectedRegex _ | .unclosedBrackets | .unclosedCall
  | .invalidNumber _ => True
  | _ => False

/-- A parser gives a result as in `post`, or it refuses for a cause that is not defensive. -/
abbrev Guarded {α : Type} (post : α → Prop) : Except SyntaxError α → Prop :=
  Yields (fun e => ¬ e.cause.Defensive) post

theorem unescape_guarded {raw : String} {cause : Cause} (h : unescape raw = .error cause) :
    ¬ cause.Defensive := by
  unfold unescape at h
  split at h
  · cases h
  · cases h
    exact id

theorem Value.ofKind_guarded {k : Kind} {cause : Cause} (hl : k.Legible)
    (h : Value.ofKind k = .error cause) : ¬ cause.Defensive := by
  unfold Value.ofKind at h
  split at h
  case h_1 raw =>
    cases hu : unescape raw with
    | ok s => simp [hu, Except.map] at h
    | error e =>
      simp only [hu, Except.map, Except.error.injEq] at h
      exact h ▸ unescape_guarded hu
  case h_2 | h_3 =>
    split at h
    · cases h
    next hnone => simp [Kind.Legible, hnone] at hl
  case h_7 => cases h; exact id
  all_goals cases h

/-- A regex literal is refused exactly if its expression does not compile. The error shows the
literal as it stands in the text, with what the compiler reports of the expression. -/
theorem Pattern.ofRaw_eq_error_iff [Pattern.Engine] {raw flags : String} {cause : Cause} :
    Pattern.ofRaw raw flags = .error cause ↔
      Engine.compile? (unescapeRegex raw) (.ofFlags flags) = none ∧
        cause = .invalidRegex raw flags (Engine.report? (unescapeRegex raw) (.ofFlags flags)) := by
  rw [← Pattern.of?_eq_none_iff]
  unfold Pattern.ofRaw
  split
  next p hp => simp [hp]
  next hnone => simp [hnone, eq_comm]

theorem Pattern.ofRaw_guarded [Pattern.Engine] {raw flags : String} {cause : Cause}
    (h : Pattern.ofRaw raw flags = .error cause) : ¬ cause.Defensive := by
  rw [(Pattern.ofRaw_eq_error_iff.1 h).2]
  exact id

theorem Int64.ofDigits_guarded {digits : String} {cause : Cause}
    (h : Int64.ofDigits digits = .error cause) : ¬ cause.Defensive := by
  rw [Int64.ofDigits_eq] at h
  split at h
  · cases h
    exact id
  · split at h
    · cases h
    · cases h
      exact id

/-- Wherever a literal can stand, it leads nowhere else. -/
theorem Grammar.Literal.after?_eq {k : Kind} {v : Value} (hv : Literal k v) {p : Place}
    {filters : Nat} (h : p.after? filters k ≠ none) : p.after? filters k = some (p, filters) := by
  cases hv <;> cases p <;> first
    | rfl
    | exact absurd rfl h
    | cases filters with
      | zero => exact absurd rfl h
      | succ outer => rfl

/-- A token of a filter that begins no segment. -/
theorem Course.inFilter {base : Nat} {q : Place} {t : Token} {ts : List Token}
    (h : Course base .path base (t :: ts)) (h0 : Place.path.after? 0 t.kind = none)
    (ha : ∀ outer, Place.path.after? (outer + 1) t.kind = some (q, outer + 1)) :
    Course base q base ts := by
  cases base with
  | zero => exact absurd h0 h.can_stand
  | succ outer => exact h.next (ha outer)

namespace Parser
variable {env : Environment} {base : Nat} {p q : Place} {stop : Position}
  {ts : List Token}

theorem literal_guarded (h : Course base p base ts) :
    Guarded (fun t => Course base p base t.rest) (literal stop ts) := by
  unfold literal
  split
  · exact .fail id
  next t rest =>
    refine (Yields.locate fun _ => Value.ofKind_guarded h.legible).bind fun v hv => ?_
    exact .pure (h.next ((literal_of_ofKind hv).after?_eq h.can_stand))

theorem regex_guarded [Pattern.Engine] (h : Course base .regex base ts) :
    Guarded (fun t => Course base .path base t.rest) (regex stop ts) := by
  unfold regex
  split
  · cases h
  next t rest =>
    split
    next raw flags hk =>
      refine (Yields.locate fun _ => Pattern.ofRaw_guarded).bind fun pattern _ => ?_
      exact .pure (h.next (by rw [hk]; rfl))
    next hk => exact absurd (by simp only [Place.after?]) h.can_stand

theorem sliceParts_guarded (parts : List (Option Int64)) (h : Course base .brackets base ts) :
    Guarded (fun r => Course base .brackets base r.1.2) (sliceParts parts ts) := by
  induction ts generalizing parts with
  | nil => cases h
  | cons t rest ih =>
    unfold sliceParts
    split
    case h_1 | h_2 | h_3 => exact .pure h
    case h_4 hk =>
      split
      · exact .fail id
      · exact (ih _ (h.next (by rw [hk]; rfl))).bind fun _ hr => .pure hr
    case h_5 digits hk =>
      refine (Yields.locate fun _ => Int64.ofDigits_guarded).bind fun i _ => ?_
      split
      · exact (ih _ (h.next (by rw [hk]; rfl))).bind fun _ hr => .pure hr
      · exact .fail id
    case h_6 => exact .fail id

theorem ofParts_guarded [Pattern.Engine] {parts : List (Option Int64)} {cause : Cause}
    (h : ofParts parts = .error cause) : ¬ cause.Defensive := by
  unfold ofParts at h
  split at h
  case h_3 =>
    split at h
    · cases h
      exact id
    · cases h
  all_goals
    cases h
    try exact id

theorem sliceOrIndex_guarded [Pattern.Engine] {first : Token} (h : Course base .brackets base ts) :
    Guarded (fun r => Course base .brackets base r.1.2) (sliceOrIndex first ts) := by
  refine (sliceParts_guarded _ h).bind fun r hr => ?_
  exact (Yields.locate fun _ => ofParts_guarded).bind fun _ _ => .pure hr

theorem names_guarded (h : Course base .brackets base ts) :
    Guarded (fun t => Course base .brackets base t.rest) (names stop ts) := by
  fun_induction names stop ts with
  | case1 => exact .fail id
  | case2 t rest quote raw hk ih =>
    have hrest := h.next (q := .brackets) (by rw [hk]; rfl)
    refine (Yields.locate fun _ => unescape_guarded).bind fun name _ => ?_
    split
    next hc =>
      obtain ⟨comma, hr, hcomma⟩ := exists_of_peek hc (by simp)
      rw [hr] at hrest
      have hmore := hrest.next (q := .brackets) (by rw [hcomma]; rfl)
      exact (ih hmore).bind fun _ ho => .pure ho
    · exact .pure hrest
  | case3 => exact .fail id

/-- The places behind the name of a function, among its arguments and behind them. -/
inductive CallPlaces : Place → Place → Place → Prop where
  | brackets : CallPlaces .bracketsCall .brackets .brackets
  | arguments : CallPlaces .argumentsCall .arguments .path

theorem arguments_guarded {callee : Token} {c a e : Place} (hp : CallPlaces c a e)
    (h : Course base a base ts) :
    Guarded (fun t => Course base e base t.rest) (arguments callee stop ts) := by
  fun_induction arguments callee stop ts with
  | case1 ts ih =>
    refine (literal_guarded h).bind fun arg harg => ?_
    split
    next hc =>
      obtain ⟨comma, hr, hcomma⟩ := exists_of_peek hc (by simp)
      rw [hr] at harg
      have hmore := harg.next (q := a) (n := base) (by rw [hcomma]; cases hp <;> rfl)
      exact (ih arg hmore).bind fun _ ho => .pure ho
    next hc =>
      obtain ⟨paren, hr, hparen⟩ := exists_of_peek hc (by simp)
      rw [hr] at harg
      exact .pure (harg.next (by rw [hparen]; cases hp <;> rfl))
    next hc =>
      obtain ⟨t, rest, hr⟩ := harg.eq_cons (by cases hp <;> simp) (by cases hp <;> simp)
      rw [hr] at harg hc
      have hk : t.kind = .endOfQuery := hc
      exact absurd (by rw [hk]; cases hp <;> rfl) harg.can_stand
    · exact .fail id

theorem resolve_guarded {name : String} {args : List Value} {cause : Cause}
    (h : (env.resolve name args).mapError Cause.call = .error cause) : ¬ cause.Defensive := by
  cases hr : env.resolve name args with
  | ok f => simp [hr, Except.mapError] at h
  | error e =>
    simp only [hr, Except.mapError, Except.error.injEq] at h
    exact h ▸ id

theorem call_guarded [Pattern.Engine] {callee : Token} {name : String} {c a e : Place}
    (hp : CallPlaces c a e) (h : Course base c base ts) :
    Guarded (fun t => Course base e base t.rest) (call env callee name stop ts) := by
  obtain ⟨t, rest, rfl⟩ := h.eq_cons (by cases hp <;> simp) (by cases hp <;> simp)
  have hk : t.kind = .openParen := by
    have := h.can_stand
    cases hp <;> simpa [Place.after?] using this
  have hrest := h.next (q := a) (n := base) (by rw [hk]; cases hp <;> rfl)
  have hopened : Guarded (fun o : Taken Unit (t :: rest) => Course base a base o.rest)
      (expect .openParen (.expectedArguments name) stop (t :: rest)) := by
    rw [expect, if_pos hk]
    exact hrest
  refine hopened.bind fun opened ho => ?_
  have resolved (args : List Value) :
      Guarded _ (locate callee.position ((env.resolve name args).mapError .call)) :=
    .locate fun _ => resolve_guarded
  split
  next hc =>
    obtain ⟨paren, hr, hparen⟩ := exists_of_peek hc (by simp)
    rw [hr] at ho
    have hend := ho.next (q := e) (n := base) (by rw [hparen]; cases hp <;> rfl)
    exact (resolved []).bind fun _ _ => .pure hend
  · refine (arguments_guarded hp ho).bind fun args hargs => ?_
    exact (resolved args.value).bind fun _ _ => .pure hargs

variable [Pattern.Engine] {inner : Option Level}

/-- A level that keeps to the course along a path. -/
structure LevelGuarded (l : Level) : Prop where
  disjunction : ∀ {base stop ts}, Course base .path base ts →
    Guarded (fun t => Course base .path base t.rest) (l.disjunction stop ts)
  atom : ∀ {base stop ts}, Course base .path base ts →
    Guarded (fun t => Course base .path base t.rest) (l.atom stop ts)

omit [Pattern.Engine] in
theorem expect_guarded {k : Kind} {cause : Kind → Cause} (hcause : ∀ k, ¬ (cause k).Defensive)
    (hnext : ∀ t rest, ts = t :: rest → t.kind = k → Course base q base rest) :
    Guarded (fun t => Course base q base t.rest) (expect k cause stop ts) := by
  unfold expect
  split
  · exact .fail (hcause _)
  next t rest =>
    split
    next hk => exact hnext t rest rfl hk
    · exact .fail (hcause _)

omit [Pattern.Engine] in
theorem close_guarded {opened : Token} (h : Course base .brackets base ts) :
    Guarded (fun t => Course base .path base t.rest) (close opened stop ts) := by
  obtain ⟨t, rest, rfl⟩ := h.eq_cons (by simp) (by simp)
  unfold close
  split
  next hk =>
    have hk : t.kind = .endOfQuery := hk
    exact absurd (by rw [hk]; rfl) h.can_stand
  · apply expect_guarded (fun _ => id)
    intro u more hu hk
    cases hu
    exact h.next (by rw [hk]; rfl)

section
variable (below : ∀ l, inner = some l → LevelGuarded l)
include below

theorem nested_guarded (p : Position) : Guarded LevelGuarded (nested inner p) := by
  unfold nested
  split
  next l => exact below l rfl
  · exact .fail id

/-- A filter after its question mark, which opens it. -/
theorem filter_guarded {question : Token} (h : Course base .path (base + 1) ts) :
    Guarded (fun t => Course base .path base t.rest) (filter inner question ts) := by
  obtain ⟨body, closing, rest, ⟨hl, hcut⟩, hbody, hrest⟩ :=
    @Course.cuts _ _ _ _ 0 h (by omega) (by simp [Place.openBrackets])
  unfold filter
  rw [hcut]
  dsimp only
  split
  · exact .fail id
  · refine (nested_guarded below _).bind fun level hlevel => ?_
    have hwhole : Guarded (fun _ => True) (whole level.disjunction closing body) := by
      refine (hlevel.disjunction hbody).bind fun t _ => ?_
      split
      · exact .pure trivial
      · exact .fail id
    exact hwhole.bind fun _ _ => .pure hrest

theorem brackets_guarded {opened : Token} (h : Course base .brackets base ts) :
    Guarded (fun t => Course base .path base t.rest) (brackets env inner opened stop ts) := by
  unfold brackets
  split
  · cases h
  next t rest =>
    split
    case h_1 hk => exact (close_guarded (h.next (by rw [hk]; rfl))).bind fun _ hc => .pure hc
    case h_2 | h_3 =>
      refine (sliceOrIndex_guarded h).bind fun r hr => ?_
      exact (close_guarded hr).bind fun _ hc => .pure hc
    case h_4 =>
      refine (names_guarded h).bind fun found hf => ?_
      exact (close_guarded hf).bind fun _ hc => .pure hc
    case h_5 hk =>
      refine (call_guarded .brackets (h.next (by rw [hk]; rfl))).bind fun found hf => ?_
      exact (close_guarded hf).bind fun _ hc => .pure hc
    case h_6 hk => exact (filter_guarded below (h.next (by rw [hk]; rfl))).bind fun _ hf => .pure hf
    case h_7 => exact .fail id
    case h_8 hk => exact absurd (by rw [hk]; rfl) h.can_stand
    case h_9 => exact .fail id

theorem descendant_guarded (h : Course base .descendant base ts) :
    Guarded (fun t => Course base .path base t.rest) (descendant env inner stop ts) := by
  unfold descendant
  split
  · cases h
  next t rest =>
    split
    next hk => exact (brackets_guarded below (h.next (by rw [hk]; rfl))).bind fun _ hb => .pure hb
    next hk => exact .pure (h.next (by rw [hk]; rfl))
    next hk => exact .pure (h.next (by rw [hk]; rfl))
    next hk => exact absurd (by simp only [Place.after?]) h.can_stand

omit below in
theorem shorthand_guarded (h : Course base .shorthand base ts) :
    Guarded (fun t => Course base .path base t.rest) (shorthand env stop ts) := by
  unfold shorthand
  split
  · cases h
  next t rest =>
    split
    next hk => exact (call_guarded .arguments (h.next (by rw [hk]; rfl))).bind fun _ hc => .pure hc
    next hk => exact .pure (h.next (by rw [hk]; rfl))
    next hk => exact .pure (h.next (by rw [hk]; rfl))
    next hk => exact absurd (by simp only [Place.after?]) h.can_stand

/-- Nothing that begins a segment comes next. -/
def PathEnds (ts : List Token) : Prop :=
  peek ts ≠ .doubleDot ∧ peek ts ≠ .dot ∧ peek ts ≠ .openBracket

theorem segments_guarded (h : Course base .path base ts) :
    Guarded (fun r => Course base .path base r.1.2 ∧ PathEnds r.1.2)
      (segments env inner stop ts) := by
  fun_induction segments env inner stop ts with
  | case1 => exact ⟨h, by simp [PathEnds, peek]⟩
  | case2 t rest hk ih =>
    refine (descendant_guarded below (h.next (by rw [hk]; rfl))).bind fun s hs => ?_
    exact (ih s hs).bind fun _ hr => .pure hr
  | case3 t rest hk ih =>
    refine (shorthand_guarded (h.next (by rw [hk]; rfl))).bind fun s hs => ?_
    exact (ih s hs).bind fun _ hr => .pure hr
  | case4 t rest hk ih =>
    refine (brackets_guarded below (h.next (by rw [hk]; rfl))).bind fun s hs => ?_
    exact (ih s hs).bind fun _ hr => .pure hr
  | case5 t rest hdd hd hb => exact ⟨h, hdd, hd, hb⟩

theorem test_guarded {a : Anchor} (h : Course base .path base ts) :
    Guarded (fun r => Course base .path base r.1.2) (test env inner a stop ts) := by
  refine (segments_guarded below h).bind fun r hr => ?_
  obtain ⟨hleft, -⟩ := hr
  dsimp only
  split
  next op hk =>
    obtain ⟨c, hc, hck⟩ := exists_of_peek hk (by simp)
    rw [hc] at hleft
    have htail := hleft.inFilter (q := .path) (by rw [hck]; rfl) fun _ => by rw [hck]; rfl
    exact (literal_guarded htail).bind fun _ hv => .pure hv
  next hk =>
    obtain ⟨c, hc, hck⟩ := exists_of_peek hk (by simp)
    rw [hc] at hleft
    have htail := hleft.inFilter (q := .regex) (by rw [hck]; rfl) fun _ => by rw [hck]; rfl
    exact (regex_guarded htail).bind fun _ hp => .pure hp
  · exact .pure hleft

theorem flipped_guarded {v : Value} {first : Token} (h : Course base .path base ts) :
    Guarded (fun t => Course base .path base t.rest) (flipped env inner v first stop ts) := by
  unfold flipped
  split
  · exact .fail id
  next t rest =>
    split
    next op hk =>
      have hrest := h.inFilter (q := .path) (by rw [hk]; rfl) fun _ => by rw [hk]; rfl
      split
      · exact .fail id
      next u after =>
        split
        next a ha =>
          have hu := anchor?_eq_some ha
          have hafter := hrest.inFilter (q := .path) (by rw [hu]; cases a <;> rfl) fun _ => by
            rw [hu]; cases a <;> rfl
          exact (segments_guarded below hafter).bind fun _ hr => .pure hr.1
        · exact .fail id
    · exact .fail id

theorem atom_guarded (h : Course base .path base ts) :
    Guarded (fun t => Course base .path base t.rest) (atom env inner stop ts) := by
  unfold atom
  split
  · exact .fail id
  next t rest =>
    have inside {q : Place} (h0 : Place.path.after? 0 t.kind = none)
        (ha : ∀ outer, Place.path.after? (outer + 1) t.kind = some (q, outer + 1)) :=
      h.inFilter h0 ha
    split
    case h_1 hk =>
      have hrest := inside (q := .path) (by rw [hk]; rfl) fun _ => by rw [hk]; rfl
      refine (nested_guarded below _).bind fun level hlevel => ?_
      refine (hlevel.disjunction hrest).bind fun p hp => ?_
      have hclosed : Guarded (fun c : Taken Unit p.rest => Course base .path base c.rest)
          (expect .closeParen .expectedCloseParen stop p.rest) := by
        apply expect_guarded (fun _ => id)
        intro u more hu hk
        rw [hu] at hp
        exact hp.inFilter (by rw [hk]; rfl) fun _ => by rw [hk]; rfl
      exact hclosed.bind fun _ hc => .pure hc
    case h_2 hk =>
      have hrest := inside (q := .path) (by rw [hk]; rfl) fun _ => by rw [hk]; rfl
      refine (nested_guarded below _).bind fun level hlevel => ?_
      exact (hlevel.atom hrest).bind fun _ hp => .pure hp
    case h_3 hk | h_4 hk =>
      have hrest := inside (q := .path) (by rw [hk]; rfl) fun _ => by rw [hk]; rfl
      exact (test_guarded below hrest).bind fun _ hr => .pure hr
    case h_11 | h_12 | h_13 => exact .fail id
    all_goals
      refine (Yields.locate fun _ => Value.ofKind_guarded h.legible).bind fun v hv => ?_
      have hrest := h.next ((literal_of_ofKind hv).after?_eq h.can_stand)
      exact (flipped_guarded below hrest).bind fun _ hp => .pure hp

end

theorem conjunction_guarded (below : ∀ l, inner = some l → LevelGuarded l)
    (h : Course base .path base ts) :
    Guarded (fun t => Course base .path base t.rest) (conjunction env inner stop ts) :=
  .chained (Course base .path base)
    (fun h hk => h.inFilter (by rw [hk]; rfl) fun _ => by rw [hk]; rfl)
    (fun h => atom_guarded below h) h

theorem disjunction_guarded (below : ∀ l, inner = some l → LevelGuarded l)
    (h : Course base .path base ts) :
    Guarded (fun t => Course base .path base t.rest) (disjunction env inner stop ts) :=
  .chained (Course base .path base)
    (fun h hk => h.inFilter (by rw [hk]; rfl) fun _ => by rw [hk]; rfl)
    (fun h => conjunction_guarded below h) h

theorem level_guarded (env : Environment) (n : Nat) :
    ∀ l, level env n = some l → LevelGuarded l := by
  induction n with
  | zero => simp [level]
  | succ n ih =>
    intro l hl
    cases hl
    exact ⟨fun h => disjunction_guarded ih h, fun h => atom_guarded ih h⟩

end Parser

/-- Behind the segments of a query comes its end. -/
theorem Parser.PathEnds.peek_eq {ts : List Token} (he : PathEnds ts) (h : Course 0 .path 0 ts) :
    peek ts = .endOfQuery := by
  obtain ⟨hdd, hd, hb⟩ := he
  cases ts with
  | nil => rfl
  | cons t rest =>
    have hstand := h.can_stand
    simp only [Place.after?] at hstand
    split at hstand
    next hk => exact absurd hk hdd
    next hk => exact absurd hk hd
    next hk => exact absurd hk hb
    · have hk : t.kind = .endOfQuery := by simpa using hstand
      exact hk

/-- On a whole course the parser never has to defend itself. -/
theorem Query.ofTokens_guarded [Pattern.Engine] (env : Environment) {ts : List Token}
    (h : Course 0 .start 0 ts) : Guarded (fun _ => True) (ofTokens env ts) := by
  obtain ⟨t, rest, rfl⟩ := h.eq_cons (by simp) (by simp)
  have hk : t.kind = .root := by
    have := h.can_stand
    simpa [Place.after?] using this
  have hroot : Guarded (fun r : Taken Unit (t :: rest) => Course 0 .path 0 r.rest)
      (Parser.expect .root .expectedRoot (Parser.stopOf (t :: rest)) (t :: rest)) := by
    rw [Parser.expect, if_pos hk]
    exact h.next (by rw [hk]; rfl)
  refine hroot.bind fun root hr => ?_
  refine (Parser.segments_guarded (Parser.level_guarded env _) hr).bind fun r hr => ?_
  obtain ⟨hleft, hends⟩ := hr
  dsimp only
  split
  · exact .pure trivial
  next hk => exact absurd (hends.peek_eq hleft) hk

/-- No text that passes the lexer is refused for a defensive cause. -/
theorem Query.not_defensive_of_ofTokens [Pattern.Engine] {env : Environment} {text : String}
    {ts : List Token} {e : SyntaxError} (hl : lex text = .ok ts) (h : ofTokens env ts = .error e) :
    ¬ e.cause.Defensive := by
  have hg := ofTokens_guarded env (course_of_lex hl)
  rwa [h] at hg

/-- A second test in a filter is refused as what it is. -/
theorem Query.not_defensive_of_second_test :
    ∃ ts e, lex "$[?@ @]" = .ok ts ∧ ofTokens .standard ts = .error e ∧
      e.cause = .unexpectedInFilter .current ∧ ¬ e.cause.Defensive := by
  have hl : lex "$[?@ @]" = .ok [⟨.root, "$", 0, 1, ⟨1, 1⟩⟩, ⟨.openBracket, "[", 1, 2, ⟨1, 2⟩⟩,
      ⟨.question, "?", 2, 3, ⟨1, 3⟩⟩, ⟨.current, "@", 3, 4, ⟨1, 4⟩⟩,
      ⟨.current, "@", 5, 6, ⟨1, 6⟩⟩, ⟨.closeBracket, "]", 6, 7, ⟨1, 7⟩⟩,
      ⟨.endOfQuery, "", 7, 7, ⟨1, 8⟩⟩] := rfl
  have h : ofTokens .standard [⟨.root, "$", 0, 1, ⟨1, 1⟩⟩, ⟨.openBracket, "[", 1, 2, ⟨1, 2⟩⟩,
      ⟨.question, "?", 2, 3, ⟨1, 3⟩⟩, ⟨.current, "@", 3, 4, ⟨1, 4⟩⟩,
      ⟨.current, "@", 5, 6, ⟨1, 6⟩⟩, ⟨.closeBracket, "]", 6, 7, ⟨1, 7⟩⟩,
      ⟨.endOfQuery, "", 7, 7, ⟨1, 8⟩⟩] =
        .error ⟨.unexpectedInFilter .current, ⟨1, 6⟩⟩ := by
    with_unfolding_all rfl
  exact ⟨_, _, hl, h, rfl, not_defensive_of_ofTokens hl h⟩

end PathQuery
