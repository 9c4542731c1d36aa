import PathQuery.Proofs.Query.Everywhere
import PathQuery.Proofs.Query.Soundness
import PathQuery.Proofs.Text.Escapes

/-! What every query that is parsed keeps to, at every depth. -/
namespace PathQuery
open Token Grammar
variable [Pattern.Engine]

/-- A value that a single token can stand for. -/
def Value.IsScalar : Value → Prop
  | .array _ | .object _ => False
  | _ => True

/-- A pattern that can be written between slashes. -/
structure Pattern.Spellable (p : Pattern) : Prop where
  source : Source p.source.toList
  visible : '\x00' ∉ p.source.toList
  flags : ∀ c ∈ p.flags.toList, Scan.isFlag c

/-- Segments that the grammar makes: a descent is followed by a selection, a step is not zero,
several names are two at least, and a function accepts its arguments. -/
def Segment.Admitted (env : Environment) (s : Segment) (rest : List Segment) : Prop :=
  match s with
  | .recursive => ∃ next more, rest = next :: more ∧ next ≠ .recursive
  | .slice _ _ step => step ≠ some 0
  | .union names => 2 ≤ names.length
  | .function name args => ∃ f, env.resolve name args = .ok f
  | _ => True

def Predicate.Admitted : Predicate → Prop
  | .compare _ _ value => value.IsScalar
  | .resembles _ pattern => pattern.Spellable
  | _ => True

namespace Grammar
variable {env : Environment}

omit [Pattern.Engine] in
theorem literal_isScalar {k : Kind} {v : Value} (h : Literal k v) : v.IsScalar := by
  cases h <;> trivial

omit [Pattern.Engine] in
theorem mem_of_mem_unescapeSlash {c : Char} {raw : List Char} (h : c ∈ unescapeSlash raw) :
    c ∈ raw := by
  fun_induction unescapeSlash raw <;> grind

theorem spellable_of_ofRaw {raw flags : String} {p : Pattern} (h : Pattern.ofRaw raw flags = .ok p)
    (hs : (Kind.regex raw flags).Shaped) : p.Spellable := by
  obtain ⟨hraw, hnul, hflags⟩ := hs
  unfold Pattern.ofRaw at h
  split at h
  next q hq =>
    cases h
    unfold Pattern.of? at hq
    split at hq
    · cases hq
      refine ⟨?_, ?_, hflags⟩
      · simpa [unescapeRegex] using hraw.source
      · simp only [unescapeRegex, String.toList_ofList]
        intro hm
        exact hnul (mem_of_mem_unescapeSlash hm)
    · simp at hq
  · simp at h

/-- A selection is no descent, and what it makes is admitted whatever follows. -/
def Selects (env : Environment) (s : Segment) : Prop :=
  s ≠ .recursive ∧ (∀ rest, s.Admitted env rest) ∧
    s.Within (Segment.Admitted env) Predicate.Admitted

theorem call_selects {ks : List Kind} {s : Segment} (h : Call env ks s) : Selects env s := by
  cases h with
  | @empty name f h => exact ⟨nofun, fun _ => ⟨f, h⟩, trivial⟩
  | @args name f _ _ _ h => exact ⟨nofun, fun _ => ⟨f, h⟩, trivial⟩

theorem bare_selects {k : Kind} {s : Segment} (h : Bare k s) : Selects env s := by
  cases h <;> exact ⟨nofun, fun _ => trivial, trivial⟩

theorem shorthand_selects {ks : List Kind} {s : Segment} (h : Shorthand env ks s) :
    Selects env s := by
  cases h with
  | bare h => exact bare_selects h
  | call h => exact call_selects h

omit [Pattern.Engine] in
theorem slice_step_ne_zero {ks : List Kind} {start stop step : Option Int64}
    (h : Slice ks start stop step) : step ≠ some 0 := by
  cases h with
  | two => simp
  | three _ _ _ h => exact h

mutual

theorem selection_selects {n : Nat} {ks : List Kind} {s : Segment} (hs : ∀ k ∈ ks, k.Shaped) :
    Selection env n ks s → Selects env s
  | .wild => ⟨nofun, fun _ => trivial, trivial⟩
  | .index _ => ⟨nofun, fun _ => trivial, trivial⟩
  | .slice h => ⟨nofun, fun _ => slice_step_ne_zero h, trivial⟩
  | .name _ => ⟨nofun, fun _ => trivial, trivial⟩
  | .names _ several => ⟨nofun, fun _ => several, trivial⟩
  | .call h => call_selects h
  | .filter h =>
    ⟨nofun, fun _ => trivial, disjunction_admitted (fun k hk => hs k (by simp [hk])) h⟩

theorem descendant_selects {n : Nat} {ks : List Kind} {s : Segment} (hs : ∀ k ∈ ks, k.Shaped) :
    Descendant env n ks s → Selects env s
  | .bare h => bare_selects h
  | .selection h => selection_selects hs h

theorem path_admitted {n : Nat} {ks : List Kind} {segments : List Segment}
    (hs : ∀ k ∈ ks, k.Shaped) : Path env n ks segments →
    everywhere (Segment.Admitted env) Predicate.Admitted segments
  | .nil => trivial
  | .descendant h rest =>
    have next := descendant_selects (fun k hk => hs k (by simp [hk])) h
    have more := path_admitted (fun k hk => hs k (by simp [hk])) rest
    ⟨⟨_, _, rfl, next.1⟩, trivial, next.2.1 _, next.2.2, more⟩
  | .shorthand h rest =>
    have next := shorthand_selects h
    ⟨next.2.1 _, next.2.2, path_admitted (fun k hk => hs k (by simp [hk])) rest⟩
  | .selection h rest =>
    have next := selection_selects (fun k hk => hs k (by simp [hk])) h
    ⟨next.2.1 _, next.2.2, path_admitted (fun k hk => hs k (by simp [hk])) rest⟩

theorem disjunction_admitted {n : Nat} {ks : List Kind} {p : Predicate}
    (hs : ∀ k ∈ ks, k.Shaped) : Disjunction env n ks p →
    p.Everywhere (Segment.Admitted env) Predicate.Admitted
  | .one h => conjunction_admitted hs h
  | .or left right =>
    ⟨trivial, disjunction_admitted (fun k hk => hs k (by simp [hk])) left,
      conjunction_admitted (fun k hk => hs k (by simp [hk])) right⟩

theorem conjunction_admitted {n : Nat} {ks : List Kind} {p : Predicate}
    (hs : ∀ k ∈ ks, k.Shaped) : Conjunction env n ks p →
    p.Everywhere (Segment.Admitted env) Predicate.Admitted
  | .one h => atom_admitted hs h
  | .and left right =>
    ⟨trivial, conjunction_admitted (fun k hk => hs k (by simp [hk])) left,
      atom_admitted (fun k hk => hs k (by simp [hk])) right⟩

theorem atom_admitted {n : Nat} {ks : List Kind} {p : Predicate} (hs : ∀ k ∈ ks, k.Shaped) :
    Atom env n ks p → p.Everywhere (Segment.Admitted env) Predicate.Admitted
  | .paren h => disjunction_admitted (fun k hk => hs k (by simp [hk])) h
  | .not h => ⟨trivial, atom_admitted (fun k hk => hs k (by simp [hk])) h⟩
  | .present _ h => ⟨trivial, path_admitted (fun k hk => hs k (by simp [hk])) h⟩
  | .compare _ _ h value =>
    ⟨literal_isScalar value, path_admitted (fun k hk => hs k (by simp [hk])) h⟩
  | .resembles _ h compiles =>
    ⟨spellable_of_ofRaw compiles (hs _ (by simp)),
      path_admitted (fun k hk => hs k (by simp [hk])) h⟩
  | .flipped _ _ value h =>
    ⟨literal_isScalar value, path_admitted (fun k hk => hs k (by simp [hk])) h⟩

end

end Grammar

namespace Query
variable {env : Environment} {text : String} {q : Query}

def Admitted (env : Environment) (q : Query) : Prop :=
  q.Everywhere (Segment.Admitted env) Predicate.Admitted

/-- A text that is accepted is the tokens of a query and the end of it. -/
theorem parse_derived (h : Query.parse env text = .ok q) :
    ∃ ts : List Token, Shaped ts ∧ Text env (ts.map Token.kind) q := by
  simp only [parse, bind_eq_ok] at h
  obtain ⟨ts, hl, h⟩ := h
  have hs := lex_shaped hl
  obtain ⟨used, rest, rfl, -, hq⟩ := ofTokens_sound hs h
  exact ⟨used, fun t ht => hs t (by simp [ht]), hq⟩

theorem parse_admitted (h : Query.parse env text = .ok q) : q.Admitted env := by
  obtain ⟨ts, hs, hq⟩ := parse_derived h
  generalize hk : ts.map Token.kind = ks at hq
  obtain ⟨hp⟩ := hq
  refine path_admitted (fun k hm => ?_) hp
  obtain ⟨t, ht, rfl⟩ := List.mem_map.1 (hk ▸ List.mem_cons_of_mem _ hm)
  exact hs t ht

end Query
end PathQuery
