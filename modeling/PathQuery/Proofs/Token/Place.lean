import PathQuery.Proofs.Number.Scanned
import PathQuery.Proofs.Token.Mark

/-! Which tokens can follow each other: the places between the tokens of a text, and how the modes
of the lexer keep to them. -/
namespace PathQuery
open Token

/-- Every digit string in a token is a number. -/
def Token.Kind.Legible : Kind → Prop
  | .int digits | .float digits => (Number.ofText? digits.toList).isSome
  | _ => True

/-- A place between tokens. Along a path stand its segments and, in a filter, all that tests are
made of; two places are behind the name of a function. -/
inductive Place where
  | start | path | descendant | shorthand | brackets | bracketsCall | arguments | argumentsCall
  | regex | ended
  deriving DecidableEq

namespace Place

/-- What stands in a filter besides the segments of its paths, inside of `outer` other filters. -/
def inFilter? (outer : Nat) : Kind → Option (Place × Nat)
  | .closeBracket => some (path, outer)
  | .tilde => some (regex, outer + 1)
  | .root | .current | .openParen | .closeParen | .name _ | .function _ | .string .. | .int _
  | .float _ | .null | .true | .false | .not | .and | .or | .compare _ => some (path, outer + 1)
  | _ => none

/-- The place behind a token and the number of open filters there, if it can stand here. -/
def after? (p : Place) (filters : Nat) (k : Kind) : Option (Place × Nat) :=
  match p with
  | start => if k = .root then some (path, filters) else none
  | path =>
    match k with
    | .doubleDot => some (descendant, filters)
    | .dot => some (shorthand, filters)
    | .openBracket => some (brackets, filters)
    | k =>
      match filters with
      | 0 => if k = .endOfQuery then some (ended, 0) else none
      | outer + 1 => inFilter? outer k
  | descendant =>
    match k with
    | .openBracket => some (brackets, filters)
    | .star | .name _ => some (path, filters)
    | _ => none
  | shorthand =>
    match k with
    | .star | .name _ => some (path, filters)
    | .function _ => some (argumentsCall, filters)
    | _ => none
  | brackets =>
    match k with
    | .closeBracket => some (path, filters)
    | .question => some (path, filters + 1)
    | .function _ => some (bracketsCall, filters)
    | .star | .comma | .colon | .openParen | .closeParen | .string .. | .int _ | .float _ =>
      some (brackets, filters)
    | _ => none
  | bracketsCall => if k = .openParen then some (brackets, filters) else none
  | arguments =>
    match k with
    | .closeParen => some (path, filters)
    | .comma | .openParen | .string .. | .int _ | .float _ => some (arguments, filters)
    | _ => none
  | argumentsCall => if k = .openParen then some (arguments, filters) else none
  | regex =>
    match k with
    | .regex .. => some (path, filters)
    | _ => none
  | ended => none

variable {p q : Place} {filters filters' : Nat} {k : Kind}

/-- Only the end of the query leads to the end. -/
theorem ended_iff (h : p.after? filters k = some (q, filters')) : k = .endOfQuery ↔ q = .ended := by
  unfold after? at h
  split at h
  case h_2 =>
    split at h
    case h_4 =>
      split at h
      · split at h
        next hk => cases h; simp [hk]
        · cases h
      · unfold inFilter? at h
        split at h <;> cases h <;> simp
    all_goals cases h; simp
  case h_1 | h_6 | h_8 =>
    split at h
    next hk => cases h; simp [hk]
    · cases h
  case h_10 => cases h
  all_goals split at h <;> cases h <;> simp

theorem ne_invalid (h : p.after? filters k = some (q, filters')) (cause : LexError) :
    k ≠ .invalid cause := by
  rintro rfl
  cases p with
  | path => cases filters <;> simp [after?, inFilter?] at h
  | _ => simp [after?] at h

end Place

namespace Lexer
open Scan

/-- Where the lexer is in a mode, with parentheses open and a text in front. -/
inductive Stands (parens : List Nat) (text : List Char) : Mode → Place → Prop where
  | start : Stands parens text .root .start
  | segment : Stands parens text .segment .path
  | filter (h : parens ≠ []) : Stands parens text .filter .path
  | descendant : Stands parens text .descendant .descendant
  | shorthand : Stands parens text .shorthand .shorthand
  | brackets : Stands parens text .brackets .brackets
  | bracketsCall (h : text.head? = some '(') : Stands parens text .brackets .bracketsCall
  | arguments : Stands parens text .arguments .arguments
  | argumentsCall (h : text.head? = some '(') : Stands parens text .arguments .argumentsCall
  | regex (h : parens ≠ []) : Stands parens text .regex .regex
  | ended (h : parens = []) : Stands parens text .done .ended

/-- An action keeps to the places: what it emits can stand here, and the next mode is the right one
for the place behind it. -/
def Action.Follows (p : Place) (parens : List Nat) (text : List Char) : Action → Prop
  | .emit kind length next parens' =>
    kind.Legible ∧ (kind = .endOfQuery → text = [] ∧ length = 0) ∧
      ∃ q, p.after? parens.length kind = some (q, parens'.length) ∧
        Stands parens' (text.drop length) next q
  | .handOver next => Stands parens text next p
  | .fail .. => True

section
variable {p q : Place} {next : Mode} {parens parens' : List Nat} {here : Position}
  {text : List Char}

theorem Action.Follows.emit {kind : Kind} {length : Nat} (hk : kind.Legible)
    (he : kind ≠ .endOfQuery) (ha : p.after? parens.length kind = some (q, parens'.length))
    (hs : Stands parens' (text.drop length) next q) :
    (Action.emit kind length next parens').Follows p parens text :=
  ⟨hk, fun h => absurd h he, q, ha, hs⟩

theorem stringToken_follows {quote : Quote}
    (ha : ∀ raw, p.after? parens.length (.string quote raw) = some (q, parens.length))
    (hs : ∀ text, Stands parens text next q) :
    (stringToken next parens here text quote).Follows p parens text := by
  unfold stringToken ofResult
  split
  · exact .emit trivial nofun (ha _) (hs _)
  · trivial

theorem numberToken_follows (hc : beginsNumber text)
    (hi : ∀ digits, p.after? parens.length (.int digits) = some (q, parens.length))
    (hf : ∀ digits, p.after? parens.length (.float digits) = some (q, parens.length))
    (hs : ∀ text, Stands parens text next q) :
    (numberToken next parens text).Follows p parens text := by
  unfold numberToken ofResult
  split
  next r hr =>
    obtain ⟨length, isFloat⟩ := r
    have hread : (Number.ofText? (lexeme text length).toList).isSome := by
      rw [lexeme, String.toList_ofList]
      exact Number.ofText?_of_scan hr hc
    cases isFloat with
    | true => exact .emit hread (by simp) (hf _) (hs _)
    | false => exact .emit hread (by simp) (hi _) (hs _)
  · trivial

theorem rootAction_follows : (rootAction parens text).Follows .start parens text := by
  unfold rootAction
  split
  · exact .emit trivial nofun rfl .segment
  · trivial

theorem segmentAction_follows : (segmentAction parens text).Follows .path parens text := by
  unfold segmentAction
  split
  case h_1 => exact .emit trivial nofun rfl .descendant
  case h_2 => exact .emit trivial nofun rfl .shorthand
  case h_3 => exact .emit trivial nofun rfl .brackets
  case h_4 =>
    split
    next hp => exact .filter hp
    next hp =>
      have hp : parens = [] := by simpa using hp
      subst hp
      split
      · exact ⟨trivial, fun _ => ⟨rfl, rfl⟩, _, rfl, .ended rfl⟩
      · trivial

theorem descendantAction_follows :
    (descendantAction parens text).Follows .descendant parens text := by
  unfold descendantAction
  split
  case h_1 => exact .emit trivial nofun rfl .segment
  case h_2 => exact .emit trivial nofun rfl .brackets
  case h_3 =>
    split
    · exact .emit trivial nofun rfl .segment
    · trivial

theorem shorthandAction_follows :
    (shorthandAction parens text).Follows .shorthand parens text := by
  unfold shorthandAction
  split
  · exact .emit trivial nofun rfl .segment
  · dsimp only
    split
    · split
      next hcall => exact .emit trivial nofun rfl (.argumentsCall (of_decide_eq_true hcall))
      · exact .emit trivial nofun rfl .segment
    · trivial

theorem bracketsAction_follows :
    (bracketsAction parens here text).Follows .brackets parens text := by
  unfold bracketsAction
  split
  case h_1 => trivial
  case h_2 => exact .emit trivial nofun rfl .segment
  case h_4 => exact .emit trivial nofun rfl (.filter (by simp))
  case h_9 | h_10 => exact stringToken_follows (fun _ => rfl) fun _ => .brackets
  case h_11 c rest _ _ _ _ _ _ _ _ _ =>
    dsimp only
    split
    next hc =>
      exact numberToken_follows ⟨c, rfl, hc⟩ (fun _ => rfl) (fun _ => rfl) fun _ => .brackets
    · split
      · split
        next hcall => exact .emit trivial nofun rfl (.bracketsCall (of_decide_eq_true hcall))
        · trivial
      · trivial
  all_goals exact .emit trivial nofun rfl .brackets

theorem argumentsAction_follows :
    (argumentsAction parens here text).Follows .arguments parens text := by
  unfold argumentsAction
  split
  case h_1 => trivial
  case h_3 => exact .emit trivial nofun rfl .segment
  case h_5 | h_6 => exact stringToken_follows (fun _ => rfl) fun _ => .arguments
  case h_7 c rest _ _ _ _ _ =>
    split
    next hc =>
      exact numberToken_follows ⟨c, rfl, hc⟩ (fun _ => rfl) (fun _ => rfl) fun _ => .arguments
    · trivial
  all_goals exact .emit trivial nofun rfl .arguments

/-- Behind the name of a function stands the opening parenthesis that made it one. -/
theorem callAction_follows (h : text.head? = some '(') :
    (bracketsAction parens here text).Follows .bracketsCall parens text ∧
      (argumentsAction parens here text).Follows .argumentsCall parens text := by
  obtain ⟨rest, rfl⟩ := List.head?_eq_some_iff.1 h
  exact ⟨.emit trivial nofun rfl .brackets, .emit trivial nofun rfl .arguments⟩

theorem wordKind_follows (word : String) (call : Bool) (outer : Nat) :
    (wordKind word call).Legible ∧ wordKind word call ≠ .endOfQuery ∧
      Place.path.after? (outer + 1) (wordKind word call) = some (.path, outer + 1) := by
  unfold wordKind
  split
  case h_7 => split <;> exact ⟨trivial, nofun, rfl⟩
  all_goals exact ⟨trivial, nofun, rfl⟩

theorem filterAction_follows (hp : parens ≠ []) :
    (filterAction parens here text).Follows .path parens text := by
  obtain ⟨count, outer, rfl⟩ := List.exists_cons_of_ne_nil hp
  unfold filterAction
  split
  case h_1 | h_21 | h_23 => trivial
  case h_2 =>
    split
    · trivial
    · exact .emit trivial nofun rfl .segment
  case h_3 => exact .emit trivial nofun rfl (.filter (by simp))
  case h_4 =>
    split
    next hparens =>
      cases hparens
      exact .emit trivial nofun rfl (.filter (by simp))
    · trivial
  case h_5 | h_6 => exact stringToken_follows (fun _ => rfl) fun _ => .filter hp
  case h_7 | h_8 => exact .emit trivial nofun rfl .segment
  case h_9 | h_10 => exact .segment
  case h_13 => exact .emit trivial nofun rfl (.regex hp)
  case h_24 c rest _ _ _ _ _ _ _ _ _ _ _ _ _ _ _ _ _ _ _ _ _ _ =>
    dsimp only
    split
    next hc =>
      exact numberToken_follows ⟨c, rfl, hc⟩ (fun _ => rfl) (fun _ => rfl) fun _ => .filter hp
    · split
      · obtain ⟨hk, he, ha⟩ := wordKind_follows (lexeme (c :: rest) (nameLength (c :: rest)))
          (isCall (c :: rest) (nameLength (c :: rest))) outer.length
        exact .emit hk he ha (.filter hp)
      · trivial
  all_goals exact .emit trivial nofun rfl (.filter hp)

theorem regexAction_follows (hp : parens ≠ []) :
    (regexAction parens here text).Follows .regex parens text := by
  unfold regexAction
  split
  · unfold regexToken ofResult
    split
    · exact .emit trivial nofun rfl (.filter hp)
    · trivial
  · trivial

/-- Whatever a mode does, it keeps to the place where the lexer stands. -/
theorem Stands.action_follows {mode : Mode} (h : Stands parens text mode p)
    (hf : mode.isFinal = false) : (mode.action parens here text).Follows p parens text := by
  cases h with
  | start => exact rootAction_follows
  | segment => exact segmentAction_follows
  | filter hp => exact filterAction_follows hp
  | descendant => exact descendantAction_follows
  | shorthand => exact shorthandAction_follows
  | brackets => exact bracketsAction_follows
  | bracketsCall hcall => exact (callAction_follows hcall).1
  | arguments => exact argumentsAction_follows
  | argumentsCall hcall => exact (callAction_follows hcall).2
  | regex hp => exact regexAction_follows hp
  | ended => simp [Mode.isFinal] at hf

theorem Stands.isFinal_iff {mode : Mode} (h : Stands parens text mode p) :
    mode.isFinal = true ↔ p = .ended := by
  cases h <;> simp [Mode.isFinal]

theorem Stands.not_final {mode : Mode} (h : Stands parens text mode p) (hp : p ≠ .ended) :
    mode.isFinal = false :=
  Bool.eq_false_iff.2 fun hf => hp (h.isFinal_iff.1 hf)

theorem Stands.dropWhile_blank {mode : Mode} (h : Stands parens text mode p) :
    Stands parens (text.dropWhile isBlank) mode p := by
  cases h with
  | bracketsCall hcall =>
    obtain ⟨rest, rfl⟩ := List.head?_eq_some_iff.1 hcall
    exact .bracketsCall rfl
  | argumentsCall hcall =>
    obtain ⟨rest, rfl⟩ := List.head?_eq_some_iff.1 hcall
    exact .argumentsCall rfl
  | filter hp => exact .filter hp
  | regex hp => exact .regex hp
  | ended hp => exact .ended hp
  | start | segment | descendant | shorthand | brackets | arguments => constructor

end

namespace Machine
variable {m : Machine} {p : Place} {n : Nat}

def Stands (m : Machine) (p : Place) : Prop := Lexer.Stands m.parens m.cursor.rest m.mode p

theorem Stands.action_follows (h : m.Stands p) (hf : m.mode.isFinal = false) :
    (m.mode.action m.parens m.cursor.skipBlank.position m.cursor.skipBlank.rest).Follows p m.parens
      m.cursor.skipBlank.rest := by
  refine Lexer.Stands.action_follows ?_ hf
  rw [Cursor.rest_skipBlank]
  exact h.dropWhile_blank

theorem Stands.of_done (h : m.Stands p) (hd : m.mode = .done) : p = .ended ∧ m.parens = [] := by
  unfold Stands at h
  rw [hd] at h
  cases h with
  | ended hp => exact ⟨rfl, hp⟩

/-- A step stays where it is, goes past a token to the place behind it, or fails. -/
theorem step_stands (h : m.Stands p) (hf : m.mode.isFinal = false) :
    (m.step.Stands p ∧ m.step.tokens = m.tokens ∧ m.step.parens = m.parens) ∨
      (∃ t q, m.step.tokens = t :: m.tokens ∧ t.kind.Legible ∧
        p.after? m.parens.length t.kind = some (q, m.step.parens.length) ∧ m.step.Stands q) ∨
      m.step.mode = .failed := by
  have ha := h.action_follows hf
  unfold step
  rw [if_neg (by simp [hf])]
  dsimp only
  split
  next kind length next parens hk =>
    rw [hk] at ha
    obtain ⟨hl, -, q, hq, hs⟩ := ha
    refine .inr (.inl ⟨_, q, rfl, hl, hq, ?_⟩)
    unfold Stands
    rwa [Cursor.rest_advance]
  next next hk =>
    rw [hk] at ha
    exact .inl ⟨ha, rfl, rfl⟩
  · exact .inr (.inr rfl)

end Machine

end Lexer

/-- The tokens from a place on, up to the end of the query or, within `base` open filters, up to
the bracket that closes the innermost of these. -/
inductive Course (base : Nat) : Place → Nat → List Token → Prop where
  | ended (h : base = 0) : Course base .ended 0 []
  | cut (h : base ≠ 0) : Course base .path base []
  | step {p q : Place} {filters filters' : Nat} {t : Token} {ts : List Token}
      (hl : t.kind.Legible) (ha : p.after? filters t.kind = some (q, filters'))
      (hb : base ≤ filters') (h : Course base q filters' ts) : Course base p filters (t :: ts)

namespace Lexer
variable {m : Machine} {p : Place} {n : Nat}

/-- A run that comes through makes tokens that can follow each other. -/
theorem Machine.run_course (h : m.Stands p) (hd : (m.run n).mode = .done) :
    ∃ ts, (m.run n).tokens = ts.reverse ++ m.tokens ∧ Course 0 p m.parens.length ts := by
  induction n generalizing m p with
  | zero =>
    obtain ⟨rfl, hp⟩ := h.of_done hd
    exact ⟨[], rfl, by rw [hp]; exact .ended rfl⟩
  | succ n ih =>
    cases hf : m.mode.isFinal with
    | true =>
      rw [run_of_isFinal hf] at hd ⊢
      obtain ⟨rfl, hp⟩ := h.of_done hd
      exact ⟨[], rfl, by rw [hp]; exact .ended rfl⟩
    | false =>
      rw [run_succ] at hd ⊢
      rcases step_stands h hf with ⟨hs, htokens, hparens⟩ | ⟨t, q, htokens, hl, ha, hs⟩ | hfail
      · obtain ⟨ts, hts, hc⟩ := ih hs hd
        exact ⟨ts, by rw [hts, htokens], hparens ▸ hc⟩
      · obtain ⟨ts, hts, hc⟩ := ih hs hd
        exact ⟨t :: ts, by rw [hts, htokens]; simp, .step hl ha (Nat.zero_le _) hc⟩
      · rw [run_of_isFinal (by rw [hfail]; rfl), hfail] at hd
        cases hd

end Lexer

/-- The tokens of a text in which none is invalid can follow each other. -/
theorem course_of_lex {text : String} {ts : List Token} (h : lex text = .ok ts) :
    Course 0 .start 0 ts := by
  have hs : (Lexer.start text).Stands .start := .start
  obtain ⟨ts', hts', hc⟩ := Lexer.Machine.run_course hs (Lexer.done_of_lex h)
  rw [← tokenize_of_lex h, Lexer.tokenize_eq_run, hts']
  simpa [Lexer.start] using hc

end PathQuery
