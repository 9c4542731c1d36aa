import PathQuery.Proofs.Query.Soundness
import PathQuery.Proofs.Query.Yields
import PathQuery.Proofs.Token.Tiling

/-! Where a text is refused: every parser that refuses its tokens blames the place of one of them,
or the place where they end. -/
namespace PathQuery
open Token SyntaxError

/-- All tokens stand at places in `P`. -/
def Placed (P : Position → Prop) (ts : List Token) : Prop := ∀ t ∈ ts, P t.position

/-- A parser gives a result as in `post`, or it refuses and blames a place in `P`. -/
abbrev Blames {α : Type} (P : Position → Prop) (post : α → Prop) : Except SyntaxError α → Prop :=
  Yields (fun e => P e.position) post

section
variable {P : Position → Prop} {t : Token} {ts : List Token} {p : Position}

theorem Placed.head (h : Placed P (t :: ts)) : P t.position := h t (by simp)

theorem Placed.of_cons (h : Placed P (t :: ts)) : Placed P ts := fun u hu => h u (by simp [hu])

theorem Placed.tail (h : Placed P ts) : Placed P ts.tail :=
  fun u hu => h u (List.mem_of_mem_tail hu)

theorem Placed.cons (ht : P t.position) (h : Placed P ts) : Placed P (t :: ts) :=
  List.forall_mem_cons.2 ⟨ht, h⟩

theorem placed_nil : Placed P [] := by simp [Placed]

end

namespace Parser
variable {env : Environment} {P : Position → Prop} {stop : Position}
  {ts : List Token}

theorem place_placed (hs : P stop) (h : Placed P ts) : P (place stop ts) := by
  cases ts with
  | nil => exact hs
  | cons t rest => exact h.head

theorem expect_blames {k : Kind} {cause : Kind → Cause} (hs : P stop) (h : Placed P ts) :
    Blames P (fun t => Placed P t.rest) (expect k cause stop ts) := by
  unfold expect
  split
  · exact .fail hs
  · split
    · exact h.of_cons
    · exact .fail h.head

theorem literal_blames (hs : P stop) (h : Placed P ts) :
    Blames P (fun t => Placed P t.rest) (literal stop ts) := by
  unfold literal
  split
  · exact .fail hs
  · exact (Yields.locate fun _ _ => h.head).bind fun _ _ => .pure h.of_cons

theorem regex_blames [Pattern.Engine] (hs : P stop) (h : Placed P ts) :
    Blames P (fun t => Placed P t.rest) (regex stop ts) := by
  unfold regex
  split
  · exact .fail hs
  · split
    · exact (Yields.locate fun _ _ => h.head).bind fun _ _ => .pure h.of_cons
    · exact .fail h.head

/-! Bracketed selections -/

theorem sliceParts_blames (parts : List (Option Int64)) (h : Placed P ts) :
    Blames P (fun r => Placed P r.1.2) (sliceParts parts ts) := by
  induction ts generalizing parts with
  | nil => exact h
  | cons t rest ih =>
    have onward (parts : List (Option Int64)) := ih parts h.of_cons
    unfold sliceParts
    split
    case h_1 | h_2 | h_3 => exact .pure h
    case h_4 =>
      split
      · exact .fail h.head
      · exact (onward _).bind fun _ hr => .pure hr
    case h_5 =>
      refine (Yields.locate fun _ _ => h.head).bind fun i _ => ?_
      split
      · exact (onward _).bind fun _ hr => .pure hr
      · exact .fail h.head
    case h_6 => exact .fail h.head

theorem sliceOrIndex_blames [Pattern.Engine] {first : Token} (hf : P first.position)
    (h : Placed P ts) :
    Blames P (fun r => Placed P r.1.2) (sliceOrIndex first ts) :=
  (sliceParts_blames _ h).bind fun _ hr => (Yields.locate fun _ _ => hf).bind fun _ _ => .pure hr

theorem names_blames (hs : P stop) (h : Placed P ts) :
    Blames P (fun t => Placed P t.rest) (names stop ts) := by
  fun_induction names stop ts with
  | case1 => exact .fail hs
  | case2 t rest quote raw hk ih =>
    refine (Yields.locate fun _ _ => h.head).bind fun name _ => ?_
    split
    · exact (ih h.of_cons.tail).bind fun _ ho => .pure ho
    · exact .pure h.of_cons
  | case3 => exact .fail h.head

theorem arguments_blames {callee : Token} (hc : P callee.position) (hs : P stop)
    (h : Placed P ts) : Blames P (fun t => Placed P t.rest) (arguments callee stop ts) := by
  fun_induction arguments callee stop ts with
  | case1 ts ih =>
    refine (literal_blames hs h).bind fun arg harg => ?_
    split
    · exact (ih arg harg.tail).bind fun _ ho => .pure ho
    · exact .pure harg.tail
    · exact .fail hc
    · exact .fail (place_placed hs harg)

theorem call_blames [Pattern.Engine] {callee : Token} {name : String} (hc : P callee.position)
    (hs : P stop) (h : Placed P ts) :
    Blames P (fun t => Placed P t.rest) (call env callee name stop ts) := by
  refine (expect_blames hs h).bind fun opened ho => ?_
  split
  · exact (Yields.locate fun _ _ => hc).bind fun _ _ => .pure ho.tail
  · refine (arguments_blames hc hs ho).bind fun args hargs => ?_
    exact (Yields.locate fun _ _ => hc).bind fun _ _ => .pure hargs

/-- A filter ends at the bracket that closes it. -/
theorem untilClosed?_placed {depth : Nat} {cut : Taken (List Token × Position) ts}
    (h : Placed P ts) (hcut : untilClosed? depth ts = some cut) :
    Placed P cut.value.1 ∧ P cut.value.2 ∧ Placed P cut.rest := by
  induction ts generalizing depth with
  | nil => simp [untilClosed?] at hcut
  | cons t rest ih =>
    unfold untilClosed? at hcut
    split at hcut
    case h_1 => simp at hcut
    case h_3 =>
      cases hcut
      exact ⟨placed_nil, h.head, h.of_cons⟩
    case h_2 | h_4 | h_5 =>
      obtain ⟨r, hr, rfl⟩ := Option.map_eq_some_iff.1 hcut
      obtain ⟨hbody, hclosing, hrest⟩ := ih h.of_cons hr
      exact ⟨hbody.cons h.head, hclosing, hrest⟩

variable [Pattern.Engine] {inner : Option Level}

/-- A level that blames only the places of what it is given. -/
structure LevelBlames (P : Position → Prop) (l : Level) : Prop where
  disjunction : ∀ {stop ts}, P stop → Placed P ts →
    Blames P (fun t => Placed P t.rest) (l.disjunction stop ts)
  atom : ∀ {stop ts}, P stop → Placed P ts →
    Blames P (fun t => Placed P t.rest) (l.atom stop ts)

omit [Pattern.Engine] in
theorem close_blames {opened : Token} (hop : P opened.position) (hs : P stop) (h : Placed P ts) :
    Blames P (fun t => Placed P t.rest) (close opened stop ts) := by
  unfold close
  split
  · exact .fail hop
  · exact expect_blames hs h

section
variable (below : ∀ l, inner = some l → LevelBlames P l)
include below

theorem nested_blames {p : Position} (hp : P p) : Blames P (LevelBlames P) (nested inner p) := by
  unfold nested
  split
  next l => exact below l rfl
  · exact .fail hp

omit below in
theorem whole_blames {q : Parser Predicate} (hs : P stop)
    (h : Blames P (fun t => Placed P t.rest) (q stop ts)) :
    Blames P (fun _ => True) (whole q stop ts) := by
  refine h.bind fun t ht => ?_
  split
  · exact .pure trivial
  · exact .fail (place_placed hs ht)

theorem filter_blames {question : Token} (hq : P question.position) (h : Placed P ts) :
    Blames P (fun t => Placed P t.rest) (filter inner question ts) := by
  unfold filter
  split
  · exact .fail hq
  next cut hcut =>
    obtain ⟨hbody, hclosing, hrest⟩ := untilClosed?_placed h hcut
    dsimp only
    split
    · exact .fail hq
    · refine (nested_blames below hq).bind fun level hlevel => ?_
      refine (whole_blames hclosing (hlevel.disjunction hclosing hbody)).bind fun _ _ => ?_
      exact .pure hrest

theorem brackets_blames {opened : Token} (hop : P opened.position) (hs : P stop)
    (h : Placed P ts) :
    Blames P (fun t => Placed P t.rest) (brackets env inner opened stop ts) := by
  unfold brackets
  split
  · exact .fail hop
  next t rest =>
    split
    case h_1 => exact (close_blames hop hs h.of_cons).bind fun _ hc => .pure hc
    case h_2 | h_3 =>
      refine (sliceOrIndex_blames h.head h).bind fun r hr => ?_
      exact (close_blames hop hs hr).bind fun _ hc => .pure hc
    case h_4 =>
      refine (names_blames hs h).bind fun found hf => ?_
      exact (close_blames hop hs hf).bind fun _ hc => .pure hc
    case h_5 =>
      refine (call_blames h.head hs h.of_cons).bind fun found hf => ?_
      exact (close_blames hop hs hf).bind fun _ hc => .pure hc
    case h_6 => exact (filter_blames below h.head h.of_cons).bind fun _ hf => .pure hf
    case h_7 | h_8 => exact .fail hop
    case h_9 => exact .fail h.head

/-! Paths -/

theorem descendant_blames (hs : P stop) (h : Placed P ts) :
    Blames P (fun t => Placed P t.rest) (descendant env inner stop ts) := by
  unfold descendant
  split
  · exact .fail hs
  · split
    · exact (brackets_blames below h.head hs h.of_cons).bind fun _ hb => .pure hb
    · exact .pure h.of_cons
    · exact .pure h.of_cons
    · exact .fail h.head

omit below in
theorem shorthand_blames (hs : P stop) (h : Placed P ts) :
    Blames P (fun t => Placed P t.rest) (shorthand env stop ts) := by
  unfold shorthand
  split
  · exact .fail hs
  · split
    · exact (call_blames h.head hs h.of_cons).bind fun _ hc => .pure hc
    · exact .pure h.of_cons
    · exact .pure h.of_cons
    · exact .fail h.head

theorem segments_blames (hs : P stop) (h : Placed P ts) :
    Blames P (fun r => Placed P r.1.2) (segments env inner stop ts) := by
  fun_induction segments env inner stop ts with
  | case1 => exact h
  | case2 t rest hk ih =>
    refine (descendant_blames below hs h.of_cons).bind fun s hr => ?_
    exact (ih s hr).bind fun _ hm => .pure hm
  | case3 t rest hk ih =>
    refine (shorthand_blames hs h.of_cons).bind fun s hr => ?_
    exact (ih s hr).bind fun _ hm => .pure hm
  | case4 t rest hk ih =>
    refine (brackets_blames below h.head hs h.of_cons).bind fun s hr => ?_
    exact (ih s hr).bind fun _ hm => .pure hm
  | case5 => exact h

/-! Predicates -/

theorem test_blames {a : Anchor} (hs : P stop) (h : Placed P ts) :
    Blames P (fun r => Placed P r.1.2) (test env inner a stop ts) := by
  refine (segments_blames below hs h).bind fun r hr => ?_
  dsimp only
  split
  · exact (literal_blames hs hr.tail).bind fun _ hv => .pure hv
  · exact (regex_blames hs hr.tail).bind fun _ hp => .pure hp
  · exact .pure hr

theorem flipped_blames {v : Value} {first : Token} (hf : P first.position) (hs : P stop)
    (h : Placed P ts) :
    Blames P (fun t => Placed P t.rest) (flipped env inner v first stop ts) := by
  unfold flipped
  split
  · exact .fail hf
  · split
    · split
      · exact .fail hs
      · split
        · exact (segments_blames below hs h.of_cons.of_cons).bind fun _ hr => .pure hr
        · exact .fail h.of_cons.head
    · exact .fail hf

theorem atom_blames (hs : P stop) (h : Placed P ts) :
    Blames P (fun t => Placed P t.rest) (atom env inner stop ts) := by
  unfold atom
  split
  · exact .fail hs
  · split
    case h_1 =>
      refine (nested_blames below h.head).bind fun level hlevel => ?_
      refine (hlevel.disjunction hs h.of_cons).bind fun p hp => ?_
      exact (expect_blames hs hp).bind fun _ hc => .pure hc
    case h_2 =>
      refine (nested_blames below h.head).bind fun level hlevel => ?_
      exact (hlevel.atom hs h.of_cons).bind fun _ hp => .pure hp
    case h_3 | h_4 => exact (test_blames below hs h.of_cons).bind fun _ hr => .pure hr
    case h_11 | h_12 | h_13 => exact .fail h.head
    all_goals
      refine (Yields.locate fun _ _ => h.head).bind fun v _ => ?_
      exact (flipped_blames below h.head hs h.of_cons).bind fun _ hp => .pure hp

end

theorem conjunction_blames (below : ∀ l, inner = some l → LevelBlames P l) (hs : P stop)
    (h : Placed P ts) :
    Blames P (fun t => Placed P t.rest) (conjunction env inner stop ts) :=
  .chained (Placed P) (fun h _ => h.of_cons) (fun h => atom_blames below hs h) h

theorem disjunction_blames (below : ∀ l, inner = some l → LevelBlames P l) (hs : P stop)
    (h : Placed P ts) :
    Blames P (fun t => Placed P t.rest) (disjunction env inner stop ts) :=
  .chained (Placed P) (fun h _ => h.of_cons) (fun h => conjunction_blames below hs h) h

theorem level_blames (env : Environment) (n : Nat) :
    ∀ l, level env n = some l → LevelBlames P l := by
  induction n with
  | zero => simp [level]
  | succ n ih =>
    intro l hl
    cases hl
    exact ⟨fun hs h => disjunction_blames ih hs h, fun hs h => atom_blames ih hs h⟩

end Parser

namespace Query
section
variable [Pattern.Engine] {env : Environment} {P : Position → Prop} {text : String}
  {e : SyntaxError}

theorem ofTokens_blames (env : Environment) {ts : List Token} (hne : ts ≠ [])
    (h : Placed P ts) : Blames P (fun _ => True) (ofTokens env ts) := by
  have hs : P (Parser.stopOf ts) := by
    rw [Parser.stopOf, List.getLast?_eq_some_getLast hne]
    exact h _ (List.getLast_mem hne)
  refine (Parser.expect_blames hs h).bind fun root hr => ?_
  refine (Parser.segments_blames (Parser.level_blames env _) hs hr).bind fun r hr => ?_
  dsimp only
  split
  · exact .pure trivial
  · exact .fail (Parser.place_placed hs hr)

omit [Pattern.Engine] in
/-- What the lexer refuses, it refuses where its last token stands. -/
theorem exists_of_lex_error (h : lex text = .error e) :
    ∃ t ∈ Lexer.tokenize text, t.position = e.position := by
  unfold lex at h
  dsimp only at h
  split at h
  next cause lexeme start stop place hlast =>
    cases h
    exact ⟨_, List.mem_of_getLast? hlast, rfl⟩
  · cases h

/-- What is refused, is refused where one of the tokens stands. -/
theorem exists_of_parse_error (h : parse env text = .error e) :
    ∃ t ∈ Lexer.tokenize text, t.position = e.position := by
  unfold parse at h
  cases hl : lex text with
  | error cause =>
    rw [hl] at h
    cases h
    exact exists_of_lex_error hl
  | ok ts =>
    rw [hl] at h
    have hts : Lexer.tokenize text = ts := tokenize_of_lex hl
    have hne : ts ≠ [] := hts ▸ Lexer.tokenize_ne_nil text
    have placed : Placed (fun p => ∃ t ∈ ts, t.position = p) ts := fun t ht => ⟨t, ht, rfl⟩
    have blamed := ofTokens_blames env hne placed
    rw [show ofTokens env ts = .error e from h] at blamed
    rwa [hts]

/-- A text is refused where one of its tokens begins, which is a place in the text or its end. -/
theorem blamed_of_parse (h : parse env text = .error e) :
    ∃ t ∈ Lexer.tokenize text, t.position = e.position ∧
      1 ≤ e.position.line ∧ 1 ≤ e.position.column ∧
      ∃ before after, text.toList = before ++ after ∧ e.position = .after before := by
  obtain ⟨t, ht, hp⟩ := exists_of_parse_error h
  obtain ⟨before, after, htext, hbehind⟩ := Lexer.piece_of_mem_tokenize ht
  have hafter : e.position = .after before := hp.symm.trans hbehind.position
  refine ⟨t, ht, hp, ?_, ?_, before, t.lexeme.toList ++ after, ?_, hafter⟩
  · rw [hafter]
    exact Nat.le_add_left 1 _
  · rw [hafter]
    exact Nat.le_add_left 1 _
  · rw [htext, List.append_assoc]

end

/-- The literal is missed where the inner filter is closed. -/
theorem blamed_of_parse_inner :
    parse .standard "$[?\n@[?@<]]" = .error ⟨.expectedLiteral .endOfQuery, ⟨2, 6⟩⟩ ∧
      ∃ t ∈ Lexer.tokenize "$[?\n@[?@<]]", t.position = ⟨2, 6⟩ ∧
        1 ≤ 2 ∧ 1 ≤ 6 ∧ ∃ before after,
          "$[?\n@[?@<]]".toList = before ++ after ∧ ⟨2, 6⟩ = Position.after before := by
  have refused : parse .standard "$[?\n@[?@<]]" =
      .error ⟨.expectedLiteral .endOfQuery, ⟨2, 6⟩⟩ := by
    with_unfolding_all rfl
  exact ⟨refused, blamed_of_parse refused⟩

end Query

end PathQuery
