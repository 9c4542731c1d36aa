import PathQuery.Proofs.Canonical.Grammar
import PathQuery.Proofs.Query.Completeness

/-! The parser refuses canonical tokens that open more levels than it has left. -/
namespace PathQuery
open Token Grammar
variable [Pattern.Engine]

namespace Parser
variable {env : Environment} {inner : Option Level} {stop : Position} {ts rest : List Token}

/-- The parser accepts what begins here. -/
def Accepts {α : Type} (p : Parser α) (stop : Position) (ts : List Token) : Prop :=
  ∃ t, p stop ts = .ok t

section
variable {operator : Kind} {connective : Connective} {operand : Parser Predicate}

theorem Accepts.first (h : Accepts (chained operator connective operand) stop ts) :
    Accepts operand stop ts := by
  obtain ⟨t, h⟩ := h
  simp only [chained, bind_eq_ok] at h
  obtain ⟨first, hf, -⟩ := h
  exact ⟨first, hf⟩

theorem Accepts.second {u : Token} {p : Predicate} (hu : u.kind = operator)
    (hp : Reads (operand stop ts) p (u :: rest))
    (h : Accepts (chained operator connective operand) stop ts) : Accepts operand stop rest := by
  obtain ⟨t, h⟩ := h
  obtain ⟨hl, hp⟩ := hp
  simp only [chained, hp, bind_eq_ok, Except.ok.injEq] at h
  obtain ⟨_, rfl, ⟨_, hl'⟩, hc, -⟩ := h
  unfold chain at hc
  rw [if_pos hu] at hc
  simp only [bind_eq_ok] at hc
  obtain ⟨right, hr, -⟩ := hc
  exact ⟨right, hr⟩

end

theorem Accepts.disjunction_atom (h : Accepts (disjunction env inner) stop ts) :
    Accepts (atom env inner) stop ts :=
  h.first.first

theorem Accepts.atom_paren {o : Token} (ho : o.kind = .openParen)
    (h : Accepts (atom env inner) stop (o :: ts)) :
    ∃ l, inner = some l ∧ Accepts l.disjunction stop ts := by
  obtain ⟨t, h⟩ := h
  simp only [atom, ho, bind_eq_ok] at h
  obtain ⟨l, hl, p, hp, -⟩ := h
  exact ⟨l, nested_eq_ok.1 hl, p, hp⟩

theorem Accepts.atom_not {o : Token} (ho : o.kind = .not)
    (h : Accepts (atom env inner) stop (o :: ts)) :
    ∃ l, inner = some l ∧ Accepts l.atom stop ts := by
  obtain ⟨t, h⟩ := h
  simp only [atom, ho, bind_eq_ok] at h
  obtain ⟨l, hl, p, hp, -⟩ := h
  exact ⟨l, nested_eq_ok.1 hl, p, hp⟩

/-- The parser accepts a path that begins here. -/
def AcceptsPath (env : Environment) (inner : Option Level) (stop : Position) (ts : List Token) :
    Prop :=
  ∃ r, segments env inner stop ts = .ok r

theorem Accepts.atom_path {a : Anchor} {o : Token} (ho : o.kind = Grammar.place a)
    (h : Accepts (atom env inner) stop (o :: ts)) : AcceptsPath env inner stop ts := by
  obtain ⟨t, h⟩ := h
  cases a with
  | current | root =>
    simp only [Grammar.place] at ho
    simp only [atom, ho, test, bind_eq_ok] at h
    obtain ⟨_, ⟨r, hr, -⟩, -⟩ := h
    exact ⟨r, hr⟩

/-- The parser accepts a selection behind a bracket. -/
def AcceptsSelection (env : Environment) (inner : Option Level) (opened : Token)
    (stop : Position) (ts : List Token) : Prop :=
  ∃ t, brackets env inner opened stop ts = .ok t

/-- A bracket, with or without two dots in front of it. -/
def Opens (front : List Token) (o : Token) : Prop :=
  o.kind = .openBracket ∧ (front = [o] ∨ ∃ d, d.kind = .doubleDot ∧ front = [d, o])

theorem AcceptsPath.selection {front : List Token} {o : Token} (ho : Opens front o)
    (h : AcceptsPath env inner stop (front ++ ts)) : AcceptsSelection env inner o stop ts := by
  obtain ⟨r, h⟩ := h
  rcases ho with ⟨ho, rfl | ⟨d, hd, rfl⟩⟩
  · unfold segments at h
    simp only [List.cons_append, List.nil_append, ho, bind_eq_ok] at h
    obtain ⟨s, hs, -⟩ := h
    exact ⟨s, hs⟩
  · unfold segments at h
    simp only [List.cons_append, List.nil_append, hd, descendant, ho, bind_eq_ok] at h
    obtain ⟨_, ⟨s, hs, -⟩, -⟩ := h
    exact ⟨s, hs⟩

theorem AcceptsPath.goes_on {front : List Token} {o : Token} {s : Segment} (ho : Opens front o)
    (hs : Reads (brackets env inner o stop ts) s rest)
    (h : AcceptsPath env inner stop (front ++ ts)) : AcceptsPath env inner stop rest := by
  obtain ⟨r, h⟩ := h
  obtain ⟨hl, hs⟩ := hs
  rcases ho with ⟨ho, rfl | ⟨d, hd, rfl⟩⟩
  · unfold segments at h
    simp only [List.cons_append, List.nil_append, ho, hs, bind_eq_ok, Except.ok.injEq] at h
    obtain ⟨_, rfl, r, hr, -⟩ := h
    exact ⟨r, hr⟩
  · unfold segments at h
    simp only [List.cons_append, List.nil_append, hd, descendant, ho, hs, bind_eq_ok,
      Except.ok.injEq] at h
    obtain ⟨_, ⟨_, rfl, hs'⟩, r, hr, -⟩ := h
    cases hs'
    exact ⟨r, hr⟩

theorem AcceptsSelection.filter {opened q : Token} {body : List Token} {closing : Position}
    (hq : q.kind = .question) (hc : Cuts 0 ts body closing rest)
    (h : AcceptsSelection env inner opened stop (q :: ts)) :
    ∃ l, inner = some l ∧ Accepts l.disjunction closing body := by
  obtain ⟨t, h⟩ := h
  obtain ⟨hl, hc⟩ := hc
  obtain ⟨s, hs⟩ : ∃ s, Parser.filter inner q ts = .ok s := by
    unfold brackets at h
    simp only [hq, bind_eq_ok] at h
    obtain ⟨s, hs, -⟩ := h
    exact ⟨s, hs⟩
  unfold Parser.filter at hs
  rw [hc] at hs
  dsimp only at hs
  split at hs
  · simp [fail, bind, Except.bind] at hs
  · simp only [bind_eq_ok, nested_eq_ok] at hs
    obtain ⟨l, hl, p, hp, -⟩ := hs
    obtain ⟨p', hp, -⟩ := whole_sound hp
    exact ⟨l, hl, p', hp⟩

end Parser

namespace Parser
variable {env : Environment} {n : Nat} {stop : Position} {used rest : List Token}

/-- An operand after a connective, behind one that is read. -/
theorem Accepts.operand {inner : Option Level} (below : CompleteBelow env inner n) {p : Predicate}
    {op : Connective} {u : Token} (hp : Atom env n (used.map Token.kind) p)
    (hu : u.kind = connective op)
    (h : Accepts (disjunction env inner) stop (used ++ u :: rest)) :
    Accepts (atom env inner) stop rest := by
  cases op with
  | and =>
    have hr : peek (u :: rest) ∈ ends := by simp [peek, hu, ends, connective]
    exact h.first.second hu (atom_complete below hp rfl hr)
  | or =>
    have hr : peek (u :: rest) ∈ [.or, .closeParen, .endOfQuery] := by
      simp [peek, hu, connective]
    exact (h.second hu (conjunction_complete below (.one hp) hr)).first

theorem level_eq_some {l : Level} (h : level env n = some l) :
    ∃ m, n = m + 1 ∧ l = ⟨disjunction env (level env m), atom env (level env m)⟩ := by
  cases n with
  | zero => simp [level] at h
  | succ m => exact ⟨m, rfl, (Option.some.inj h).symm⟩

/-- A parenthesis opens a level of its own. -/
theorem paren_too_deep {depth : Nat} {o : Token} (ho : o.kind = .openParen)
    (deep : ∀ {m}, m < depth → ∀ stop, ¬ Accepts (atom env (level env m)) stop used)
    (hn : n < depth + 1) : ¬ Accepts (atom env (level env n)) stop (o :: used) := by
  intro h
  obtain ⟨l, hl, hd⟩ := h.atom_paren ho
  obtain ⟨m, rfl, rfl⟩ := level_eq_some hl
  exact deep (by omega) stop hd.disjunction_atom

end Parser

/-- The tokens of a selection begin with a bracket. -/
theorem Segment.exists_opened {s : Segment} (hs : s ≠ .recursive) {used : List Token}
    (hk : used.map Token.kind = s.kinds) :
    ∃ o tail, used = o :: tail ∧ o.kind = .openBracket ∧ (o :: tail).map Token.kind = s.kinds := by
  obtain ⟨ks, hks⟩ : ∃ ks, s.kinds = .openBracket :: ks := by
    cases s with
    | recursive => exact absurd rfl hs
    | _ => exact ⟨_, rfl⟩
  obtain ⟨o, tail, rfl, ho, -⟩ := List.map_eq_cons_iff.1 (hk.trans hks)
  exact ⟨o, tail, rfl, ho, hk⟩

section
variable {env : Environment}

/-- A selection whose levels are there is passed. -/
theorem Segment.passed {s : Segment} {segments : List Segment} (h : s.Expressible env segments)
    (hw : s.Within (Segment.Expressible env) Predicate.Admitted) (hs : s ≠ .recursive) {n : Nat}
    (hn : s.nesting ≤ n) {front tail rest : List Token} {o : Token}
    (hk : (o :: tail).map Token.kind = s.kinds) (ho : Parser.Opens front o) {stop : Position}
    (hp : Parser.AcceptsPath env (Parser.level env n) stop (front ++ (tail ++ rest))) :
    Parser.AcceptsPath env (Parser.level env n) stop rest := by
  obtain ⟨_, _, hcons, -, hreads⟩ := Parser.brackets_complete (Parser.level_complete env n)
    (Segment.derived s segments h hw hs n hn) hk
  obtain ⟨rfl, rfl⟩ := List.cons.inj hcons
  exact hp.goes_on ho (hreads stop rest)

/-- A path is too deep if its first selection is, or else what follows it. -/
theorem Segment.path_too_deep {s : Segment} {segments : List Segment}
    (h : s.Expressible env segments) (hw : s.Within (Segment.Expressible env) Predicate.Admitted)
    (hs : s ≠ .recursive) {n : Nat} (hn : n < max s.nesting (segmentsNesting segments))
    {front tail rest : List Token} {o : Token} (hk : (o :: tail).map Token.kind = s.kinds)
    (ho : Parser.Opens front o) {stop : Position}
    (first : n < s.nesting →
      ¬ Parser.AcceptsSelection env (Parser.level env n) o stop (tail ++ rest))
    (more : n < segmentsNesting segments →
      ¬ Parser.AcceptsPath env (Parser.level env n) stop rest) :
    ¬ Parser.AcceptsPath env (Parser.level env n) stop (front ++ (tail ++ rest)) := by
  intro ha
  by_cases hd : n < s.nesting
  · exact first hd (ha.selection ho)
  · have hle : s.nesting ≤ n := Nat.le_of_not_lt hd
    exact more (by omega) (Segment.passed h hw hs hle hk ho ha)

mutual

theorem Segment.too_deep : (s : Segment) →
    s.Within (Segment.Expressible env) Predicate.Admitted → ∀ {n}, n < s.nesting →
    ∀ {opened tail rest}, (opened :: tail).map Token.kind = s.kinds → ∀ stop,
    ¬ Parser.AcceptsSelection env (Parser.level env n) opened stop (tail ++ rest)
  | .field _, _, _, hn, _, _, _, _, _ | .wild, _, _, hn, _, _, _, _, _
  | .recursive, _, _, hn, _, _, _, _, _ | .index _, _, _, hn, _, _, _, _, _
  | .slice .., _, _, hn, _, _, _, _, _ | .union _, _, _, hn, _, _, _, _, _
  | .function .., _, _, hn, _, _, _, _, _ => absurd hn (Nat.not_lt_zero _)
  | .filter p, hw, n, hn, opened, tail, rest, hk, stop => by
    intro h
    obtain ⟨-, hk⟩ := List.cons.inj hk
    obtain ⟨question, tail, rfl, hq, hk⟩ := List.map_eq_cons_iff.1 hk
    obtain ⟨body, last, rfl, hbody, hlast⟩ := List.map_eq_append_iff.1 hk
    obtain ⟨closing, rfl, hclosing⟩ := List.map_eq_singleton_iff.1 hlast
    have balanced : Balanced (body.map Token.kind) := by
      rw [hbody]
      exact .atom (atom_paren (Predicate.derived p hw p.nesting (Nat.le_refl _)))
    have cuts : Parser.Cuts 0 (body ++ closing :: rest) (body ++ []) closing.position rest :=
      Parser.Cuts.balanced balanced (Parser.Cuts.here hclosing)
    rw [List.append_nil] at cuts
    rw [List.cons_append, List.append_assoc, List.singleton_append] at h
    obtain ⟨l, hl, hd⟩ := h.filter hq cuts
    obtain ⟨m, rfl, rfl⟩ := Parser.level_eq_some hl
    obtain ⟨o, body, rfl, ho, hk⟩ := List.map_eq_cons_iff.1 hbody
    obtain ⟨inside, last, rfl, hi, -⟩ := List.map_eq_append_iff.1 hk
    have hm : m < p.nesting + 1 := by
      simp only [Segment.nesting] at hn
      omega
    exact Parser.paren_too_deep ho (fun hm => Predicate.too_deep p hw hm hi) hm hd.disjunction_atom

theorem Predicate.too_deep : (p : Predicate) →
    p.Everywhere (Segment.Expressible env) Predicate.Admitted → ∀ {n}, n < p.nesting →
    ∀ {used rest}, used.map Token.kind = p.kinds → ∀ stop,
    ¬ Parser.Accepts (Parser.atom env (Parser.level env n)) stop (used ++ rest)
  | .present path, h, n, hn, used, rest, hk, stop =>
    Subpath.too_deep path h.2 hn [] (hk.trans (List.append_nil _).symm) stop
  | .compare path op value, h, n, hn, used, rest, hk, stop =>
    Subpath.too_deep path h.2 hn [.compare op, value.literalKind] hk stop
  | .resembles path pattern, h, n, hn, used, rest, hk, stop =>
    Subpath.too_deep path h.2 hn [.tilde, pattern.kind] hk stop
  | .not p, h, n, hn, used, rest, hk, stop => by
    intro ha
    obtain ⟨sign, tail, rfl, hs, hk⟩ := List.map_eq_cons_iff.1 hk
    obtain ⟨o, tail, rfl, ho, hk⟩ := List.map_eq_cons_iff.1 hk
    obtain ⟨inside, last, rfl, hi, -⟩ := List.map_eq_append_iff.1 hk
    rw [List.cons_append, List.cons_append, List.append_assoc] at ha
    obtain ⟨l, hl, hd⟩ := ha.atom_not hs
    obtain ⟨m, rfl, rfl⟩ := Parser.level_eq_some hl
    have hm : m < p.nesting + 1 := by
      simp only [Predicate.nesting] at hn
      omega
    exact Parser.paren_too_deep ho (fun hm => Predicate.too_deep p h.2 hm hi) hm hd
  | .logical op p q, h, n, hn, used, rest, hk, stop => by
    intro ha
    obtain ⟨o, tail, rfl, ho, hk⟩ := List.map_eq_cons_iff.1 hk
    obtain ⟨inside, last, rfl, hi, -⟩ := List.map_eq_append_iff.1 hk
    obtain ⟨left, tail, rfl, hleft, hi⟩ := List.map_eq_append_iff.1 hi
    obtain ⟨u, right, rfl, hu, hright⟩ := List.map_eq_cons_iff.1 hi
    rw [List.cons_append, List.append_assoc, List.append_assoc, List.cons_append] at ha
    obtain ⟨l, hl, hd⟩ := ha.atom_paren ho
    obtain ⟨m, rfl, rfl⟩ := Parser.level_eq_some hl
    have hm : m < max p.nesting q.nesting := by
      simp only [Predicate.nesting] at hn
      omega
    by_cases hp : m < p.nesting
    · exact Predicate.too_deep p h.2.1 hp hleft stop hd.disjunction_atom
    · -- The left operand is read, so the parser comes to the right one.
      have first := Predicate.derived p h.2.1 m (by omega)
      have second := Parser.Accepts.operand (Parser.level_complete env m) (hleft ▸ first) hu hd
      exact Predicate.too_deep q h.2.2 (by omega) hright stop second

theorem Subpath.too_deep : (path : Subpath) →
    path.Everywhere (Segment.Expressible env) Predicate.Admitted → ∀ {n}, n < path.nesting →
    ∀ {used rest} (back : List Kind), used.map Token.kind = path.kinds ++ back → ∀ stop,
    ¬ Parser.Accepts (Parser.atom env (Parser.level env n)) stop (used ++ rest)
  | .mk anchor segments, h, n, hn, used, rest, back, hk, stop => by
    intro ha
    obtain ⟨o, tail, rfl, ho, hk⟩ := List.map_eq_cons_iff.1 hk
    obtain ⟨path, behind, rfl, hp, -⟩ := List.map_eq_append_iff.1 hk
    rw [List.cons_append, List.append_assoc] at ha
    exact segments_too_deep segments h hn hp stop (ha.atom_path ho)

theorem segments_too_deep : (segments : List Segment) →
    everywhere (Segment.Expressible env) Predicate.Admitted segments → ∀ {n},
    n < segmentsNesting segments → ∀ {used rest}, used.map Token.kind = segmentsKinds segments →
    ∀ stop, ¬ Parser.AcceptsPath env (Parser.level env n) stop (used ++ rest)
  | [], _, _, hn, _, _, _, _ => absurd hn (Nat.not_lt_zero _)
  | [s], h, n, hn, used, rest, hk, stop => by
    have hs : s ≠ .recursive := by
      rintro rfl
      exact absurd hn (Nat.not_lt_zero _)
    obtain ⟨o, tail, rfl, ho, hk⟩ := Segment.exists_opened hs (hk.trans (List.append_nil _))
    exact Segment.path_too_deep h.1 h.2.1 hs hn hk ⟨ho, .inl rfl⟩
      (fun hd => Segment.too_deep s h.2.1 hd hk stop) fun hd => absurd hd (Nat.not_lt_zero _)
  | s :: t :: segments, h, n, hn, used, rest, hk, stop => by
    obtain ⟨front, back, rfl, hf, hb⟩ := List.map_eq_append_iff.1 hk
    by_cases hs : s = .recursive
    · -- A descent has no brackets of its own: it is passed together with the selection behind it.
      subst hs
      obtain ⟨d, rfl, hd⟩ := List.map_eq_singleton_iff.1 hf
      obtain ⟨selection, more, rfl, hsel, hmore⟩ := List.map_eq_append_iff.1 hb
      obtain ⟨next, others, heq, hne⟩ := h.1.1
      obtain ⟨rfl, -⟩ := List.cons.inj heq
      obtain ⟨o, tail, rfl, ho, hsel⟩ := Segment.exists_opened hne hsel
      have hn : n < max t.nesting (segmentsNesting segments) := by
        simp only [segmentsNesting, Segment.nesting] at hn
        omega
      have deep : ¬ Parser.AcceptsPath env (Parser.level env n) stop
          ([d, o] ++ (tail ++ (more ++ rest))) :=
        Segment.path_too_deep h.2.2.1 h.2.2.2.1 hne hn hsel ⟨ho, .inr ⟨d, hd, rfl⟩⟩
          (fun hd => Segment.too_deep t h.2.2.2.1 hd hsel stop)
          fun hd => segments_too_deep segments h.2.2.2.2 hd hmore stop
      simpa using deep
    · obtain ⟨o, tail, rfl, ho, hf⟩ := Segment.exists_opened hs hf
      have deep : ¬ Parser.AcceptsPath env (Parser.level env n) stop
          ([o] ++ (tail ++ (back ++ rest))) :=
        Segment.path_too_deep h.1 h.2.1 hs hn hf ⟨ho, .inl rfl⟩
          (fun hd => Segment.too_deep s h.2.1 hd hf stop)
          fun hd => segments_too_deep (t :: segments) h.2.2 hd hb stop
      simpa using deep

end

end

end PathQuery
