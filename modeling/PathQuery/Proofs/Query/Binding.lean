import PathQuery.Proofs.Query.Everywhere
import PathQuery.Query.Eval
import PathQuery.Regex.Search

/-! What a predicate depends on: paths that start at the candidate do not see the root, and paths
that start at the root do not see the candidate, in nested filters as well. -/
namespace PathQuery

section
variable [Pattern.Engine]

def Subpath.anchor : Subpath → Anchor
  | .mk anchor _ => anchor

/-- The path that a predicate tests itself starts at `a`. -/
def Predicate.StartsAt (a : Anchor) : Predicate → Prop
  | .present path | .compare path _ _ | .resembles path _ => path.anchor = a
  | .not _ | .logical .. => True

/-- All paths start at the candidate, those in the filters of paths included. -/
abbrev Predicate.Relative (p : Predicate) : Prop :=
  p.Everywhere (fun _ _ => True) (Predicate.StartsAt .current)

abbrev Query.Relative (q : Query) : Prop :=
  q.Everywhere (fun _ _ => True) (Predicate.StartsAt .current)

/-- The outermost paths start at the root; those in their filters may start anywhere. -/
def Predicate.Absolute : Predicate → Prop
  | .present path | .compare path _ _ | .resembles path _ => path.anchor = .root
  | .not p => p.Absolute
  | .logical _ left right => left.Absolute ∧ right.Absolute

section
variable (env : Environment) (root root' : Value)

mutual

theorem Segment.select_root_irrel : (s : Segment) →
    s.Within (fun _ _ => True) (Predicate.StartsAt .current) →
    ∀ n, s.select env root n = s.select env root' n
  | .field _, _, _ | .wild, _, _ | .recursive, _, _ | .index _, _, _ | .slice .., _, _
  | .union _, _, _ | .function .., _, _ => rfl
  | .filter p, h, n => by
    have holds (c : Node) := Predicate.holds_root_irrel p h c.value
    simp only [Segment.select, holds]

theorem Predicate.holds_root_irrel : (p : Predicate) → p.Relative →
    ∀ v, p.holds env root v = p.holds env root' v
  | .present path, h, v => by
    simp only [Predicate.holds, Subpath.nodes_root_irrel path h.1 h.2 v]
  | .compare path _ _, h, v => by
    simp only [Predicate.holds, Subpath.nodes_root_irrel path h.1 h.2 v]
  | .resembles path _, h, v => by
    simp only [Predicate.holds, Subpath.nodes_root_irrel path h.1 h.2 v]
  | .not p, h, v => by
    simp only [Predicate.holds, Predicate.holds_root_irrel p h.2 v]
  | .logical .and left right, h, v | .logical .or left right, h, v => by
    simp only [Predicate.holds, Predicate.holds_root_irrel left h.2.1 v,
      Predicate.holds_root_irrel right h.2.2 v]

theorem Subpath.nodes_root_irrel : (path : Subpath) → path.anchor = .current →
    path.Everywhere (fun _ _ => True) (Predicate.StartsAt .current) →
    ∀ v, path.nodes env root v = path.nodes env root' v
  | .mk .current segments, _, h, v => resolve_root_irrel segments h [.ofRoot v]

theorem resolve_root_irrel : (segments : List Segment) →
    everywhere (fun _ _ => True) (Predicate.StartsAt .current) segments →
    ∀ nodes, resolve env root segments nodes = resolve env root' segments nodes
  | [], _, _ => rfl
  | s :: rest, h, nodes => by
    have select : s.select env root = s.select env root' :=
      funext (Segment.select_root_irrel s h.2.1)
    simp only [resolve, select, resolve_root_irrel rest h.2.2]

end

theorem Subpath.nodes_current_irrel (path : Subpath) (h : path.anchor = .root) (v w : Value) :
    path.nodes env root v = path.nodes env root w := by
  obtain ⟨a, segments⟩ := path
  cases h
  rfl

theorem Predicate.holds_current_irrel (p : Predicate) (h : p.Absolute) (v w : Value) :
    p.holds env root v = p.holds env root w := by
  match p, h with
  | .present path, h => simp only [holds, path.nodes_current_irrel env root h v w]
  | .compare path _ _, h => simp only [holds, path.nodes_current_irrel env root h v w]
  | .resembles path _, h => simp only [holds, path.nodes_current_irrel env root h v w]
  | .not p, h => simp only [holds, holds_current_irrel p h v w]
  | .logical .and left right, h | .logical .or left right, h =>
    simp only [holds, holds_current_irrel left h.1 v w, holds_current_irrel right h.2 v w]

/-- A path from the candidate finds what the same segments find in the candidate as a document. -/
theorem Subpath.nodes_current_eq_find {q : Query} (h : q.Relative) (v : Value) :
    (Subpath.mk .current q.segments).nodes env root v = q.find env v :=
  resolve_root_irrel env root v q.segments h [.ofRoot v]

end

/-- Paths are bound as they are written, at every depth: what starts at the candidate does not
depend on the root, and what starts at the root does not depend on the candidate. -/
theorem Predicate.holds_bound (env : Environment) :
    (∀ p : Predicate, p.Relative →
      ∀ v root root', p.holds env root v = p.holds env root' v) ∧
    (∀ p : Predicate, p.Absolute →
      ∀ root v w, p.holds env root v = p.holds env root w) ∧
    ∀ q : Query, q.Relative →
      ∀ root v, (Subpath.mk .current q.segments).nodes env root v = q.find env v := by
  refine ⟨?_, ?_, ?_⟩
  · intro p h v root root'
    exact p.holds_root_irrel env root root' h v
  · intro p h root v w
    exact p.holds_current_irrel env root h v w
  · intro q h root v
    exact Subpath.nodes_current_eq_find env root h v

end

/-- The filter for what has no member `a`. -/
def Segment.lacksA : Segment := .filter (.not (.present (.mk .current [.field "a"])))

theorem Predicate.holds_bound_nested :
    Relative (.present (.mk .current [.lacksA])) ∧
    Absolute (.present (.mk .root [.lacksA])) ∧
    holds .standard .null (.present (.mk .current [.lacksA])) (.array [.object []]) =
      holds .standard (.array []) (.present (.mk .current [.lacksA])) (.array [.object []]) ∧
    holds .standard (.array [.object []]) (.present (.mk .root [.lacksA])) .null =
      holds .standard (.array [.object []]) (.present (.mk .root [.lacksA])) (.array []) ∧
    Subpath.nodes .standard .null (.mk .current [.lacksA]) (.array [.object []]) =
      Query.find ⟨[.lacksA]⟩ .standard (.array [.object []]) := by
  have inner : Relative (.not (.present (.mk .current [.field "a"]))) :=
    ⟨trivial, rfl, trivial, trivial, trivial⟩
  have path : Query.Relative ⟨[.lacksA]⟩ := ⟨trivial, inner, trivial⟩
  have relative : Relative (.present (.mk .current [.lacksA])) := ⟨rfl, path⟩
  have absolute : Absolute (.present (.mk .root [.lacksA])) := rfl
  obtain ⟨anyRoot, anyCurrent, anyQuery⟩ := holds_bound .standard
  exact ⟨relative, absolute, anyRoot _ relative _ _ _, anyCurrent _ absolute _ _ _,
    anyQuery _ path _ _⟩

end PathQuery
