import PathQuery.Pattern
import PathQuery.Value.Comparison
/-! Queries: segments that each take nodes to nodes, with predicates inside filters. -/
namespace PathQuery
variable [Pattern.Engine]

inductive Connective where
  | and | or
  deriving DecidableEq, Repr

/-- Where a path inside a filter starts: at the candidate or at the root. -/
inductive Anchor where
  | current | root
  deriving DecidableEq, Repr

mutual

inductive Segment where
  | field (name : String)
  | wild
  | recursive
  | index (i : Int64)
  | slice (start stop step : Option Int64)
  | union (names : List String)
  | filter (p : Predicate)
  | function (name : String) (args : List Value)

inductive Predicate where
  | present (path : Subpath)
  | compare (path : Subpath) (op : Comparison) (value : Value)
  | resembles (path : Subpath) (pattern : Pattern)
  | not (p : Predicate)
  | logical (op : Connective) (left right : Predicate)

inductive Subpath where
  | mk (anchor : Anchor) (segments : List Segment)

end

instance : Inhabited Segment := ⟨.wild⟩

structure Query where
  segments : List Segment

mutual

/-- Equality of segments: literals by content, patterns by source and flags. -/
def Segment.same : Segment → Segment → Bool
  | .field a, .field b => a == b
  | .wild, .wild => true
  | .recursive, .recursive => true
  | .index i, .index j => i == j
  | .slice a b c, .slice d e f => a == d && b == e && c == f
  | .union names, .union others => names == others
  | .filter p, .filter q => p.same q
  | .function f args, .function g others => f == g && Value.sameItems args others
  | _, _ => false

def Predicate.same : Predicate → Predicate → Bool
  | .present p, .present q => p.same q
  | .compare p op v, .compare q op' w => p.same q && op == op' && v.same w
  | .resembles p a, .resembles q b => p.same q && a == b
  | .not p, .not q => p.same q
  | .logical op l r, .logical op' l' r' => op == op' && l.same l' && r.same r'
  | _, _ => false

def Subpath.same : Subpath → Subpath → Bool
  | .mk a s, .mk b t => a == b && sameSegments s t

def sameSegments : List Segment → List Segment → Bool
  | [], [] => true
  | a :: s, b :: t => a.same b && sameSegments s t
  | _, _ => false

end

def Query.same (q r : Query) : Bool := sameSegments q.segments r.segments

end PathQuery
