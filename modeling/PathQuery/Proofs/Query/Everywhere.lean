import PathQuery.Query.Basic

/-! What holds at every depth of a query: of each segment together with those that follow it, and
of each predicate, those within the filters of paths included. -/
namespace PathQuery
variable [Pattern.Engine]

section
variable (S : Segment → List Segment → Prop) (P : Predicate → Prop)

mutual

/-- Holds of what is inside a segment. -/
def Segment.Within : Segment → Prop
  | .filter p => p.Everywhere
  | _ => True
termination_by structural s => s

def Predicate.Everywhere : Predicate → Prop
  | .present path => P (.present path) ∧ path.Everywhere
  | .compare path op value => P (.compare path op value) ∧ path.Everywhere
  | .resembles path pattern => P (.resembles path pattern) ∧ path.Everywhere
  | .not p => P (.not p) ∧ p.Everywhere
  | .logical op left right =>
    P (.logical op left right) ∧ left.Everywhere ∧ right.Everywhere
termination_by structural p => p

def Subpath.Everywhere : Subpath → Prop
  | .mk _ segments => everywhere segments
termination_by structural p => p

def everywhere : List Segment → Prop
  | [] => True
  | segment :: rest => S segment rest ∧ segment.Within ∧ everywhere rest
termination_by structural segments => segments

end

def Query.Everywhere (q : Query) : Prop := everywhere S P q.segments

end

section
variable {S S' T : Segment → List Segment → Prop} {P P' Q : Predicate → Prop}

mutual

theorem Segment.Within.imp₂ (hS : ∀ s rest, S s rest → S' s rest → T s rest)
    (hP : ∀ p, P p → P' p → Q p) : (s : Segment) → s.Within S P → s.Within S' P' → s.Within T Q
  | .filter p, h, h' => Predicate.Everywhere.imp₂ hS hP p h h'
  | .field _, _, _ | .wild, _, _ | .recursive, _, _ | .index _, _, _ | .slice .., _, _
  | .union _, _, _ | .function .., _, _ => trivial

theorem Predicate.Everywhere.imp₂ (hS : ∀ s rest, S s rest → S' s rest → T s rest)
    (hP : ∀ p, P p → P' p → Q p) :
    (p : Predicate) → p.Everywhere S P → p.Everywhere S' P' → p.Everywhere T Q
  | .present path, h, h' => ⟨hP _ h.1 h'.1, Subpath.Everywhere.imp₂ hS hP path h.2 h'.2⟩
  | .compare path _ _, h, h' => ⟨hP _ h.1 h'.1, Subpath.Everywhere.imp₂ hS hP path h.2 h'.2⟩
  | .resembles path _, h, h' => ⟨hP _ h.1 h'.1, Subpath.Everywhere.imp₂ hS hP path h.2 h'.2⟩
  | .not p, h, h' => ⟨hP _ h.1 h'.1, Predicate.Everywhere.imp₂ hS hP p h.2 h'.2⟩
  | .logical _ left right, h, h' =>
    ⟨hP _ h.1 h'.1, Predicate.Everywhere.imp₂ hS hP left h.2.1 h'.2.1,
      Predicate.Everywhere.imp₂ hS hP right h.2.2 h'.2.2⟩

theorem Subpath.Everywhere.imp₂ (hS : ∀ s rest, S s rest → S' s rest → T s rest)
    (hP : ∀ p, P p → P' p → Q p) :
    (p : Subpath) → p.Everywhere S P → p.Everywhere S' P' → p.Everywhere T Q
  | .mk _ segments, h, h' => everywhere.imp₂ hS hP segments h h'

theorem everywhere.imp₂ (hS : ∀ s rest, S s rest → S' s rest → T s rest)
    (hP : ∀ p, P p → P' p → Q p) : (segments : List Segment) → everywhere S P segments →
    everywhere S' P' segments → everywhere T Q segments
  | [], _, _ => trivial
  | segment :: rest, h, h' =>
    ⟨hS _ _ h.1 h'.1, Segment.Within.imp₂ hS hP segment h.2.1 h'.2.1,
      everywhere.imp₂ hS hP rest h.2.2 h'.2.2⟩

end

namespace Query.Everywhere
variable {q : Query}

theorem imp (hS : ∀ s rest, S s rest → S' s rest) (hP : ∀ p, P p → P' p)
    (h : q.Everywhere S P) : q.Everywhere S' P' :=
  everywhere.imp₂ (fun s rest h _ => hS s rest h) (fun p h _ => hP p h) q.segments h h

theorem and (h : q.Everywhere S P) (h' : q.Everywhere S' P') :
    q.Everywhere (fun s rest => S s rest ∧ S' s rest) fun p => P p ∧ P' p :=
  everywhere.imp₂ (fun _ _ => And.intro) (fun _ => And.intro) q.segments h h'

end Query.Everywhere

end

end PathQuery
