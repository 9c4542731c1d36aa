import PathQuery.Environment
import PathQuery.Node
import PathQuery.Query.Basic
import PathQuery.Query.Slice
/-! Evaluation: what a query finds in a document, in match order. -/
namespace PathQuery
variable [Pattern.Engine]

inductive EvalError where
  | zeroStep
  | call (cause : CallError)

namespace EvalError

def message : EvalError → String
  | zeroStep => "slice step cannot be zero"
  | call cause => cause.message

def text (e : EvalError) : String := "evaluation error: " ++ e.message

end EvalError

/-- Joins the results for each element, or fails with the first that fails. -/
def collect {α β ε : Type} (f : α → Except ε (List β)) : List α → Except ε (List β)
  | [] => .ok []
  | a :: rest => do return (← f a) ++ (← collect f rest)

namespace Node

def member? (n : Node) (name : String) : Option Node :=
  match n.value with
  | .object members =>
    (Members.get? members name).map fun value => ⟨n.location ++ [.member name], value⟩
  | _ => none

def item? (n : Node) (index : Nat) : Option Node :=
  match n.value with
  | .array items => items[index]?.map fun value => ⟨n.location ++ [.item index], value⟩
  | _ => none

/-- The item at an index, which counts from the end if it is negative. -/
def itemAt? (n : Node) (i : Int) : Option Node :=
  match n.value with
  | .array items =>
    let place := if i < 0 then items.length + i else i
    if place < 0 then none else n.item? place.toNat
  | _ => none

def slice (n : Node) (start stop step : Option Int) : Except EvalError (List Node) :=
  match n.value with
  | .array items =>
    let step := step.getD 1
    if step = 0 then .error .zeroStep
    else .ok ((Slice.indices items.length start stop step).filterMap fun i =>
      if i < 0 then none else n.item? i.toNat)
  | _ => .ok []

/-- What a filter tests: the items of an array, an object before its members, else the value. -/
def candidates (n : Node) : List Node :=
  match n.value with
  | .array _ => n.children
  | .object _ => n :: n.children
  | _ => [n]

/-- The value that a function makes of the node's value, found in the node's place. -/
def apply (n : Node) (env : Environment) (name : String) (args : List Value) :
    Except EvalError (List Node) :=
  match env.resolve name args with
  | .error cause => .error (.call cause)
  | .ok f => .ok ((f.call n.value args).map (Node.mk n.location)).toList

end Node

/-- The one node of a list that has no other. -/
def single? : List Node → Option Node
  | [n] => some n
  | _ => none

mutual

def Segment.select (env : Environment) (root : Value) :
    Segment → Node → Except EvalError (List Node)
  | .field name, n => .ok (n.member? name).toList
  | .wild, n => .ok n.children
  | .recursive, n => .ok (n.value.descend n.location)
  | .index i, n => .ok (n.itemAt? i.toInt).toList
  | .slice start stop step, n =>
    n.slice (start.map Int64.toInt) (stop.map Int64.toInt) (step.map Int64.toInt)
  | .union names, n => .ok (names.filterMap n.member?)
  | .filter p, n => collect (fun c => do return if ← p.holds env root c.value then [c] else [])
      n.candidates
  | .function name args, n => n.apply env name args
termination_by structural s => s

def Predicate.holds (env : Environment) (root : Value) :
    Predicate → Value → Except EvalError Bool
  | .present path, v => do return !(← path.nodes env root v).isEmpty
  | .compare path op literal, v => do
    return (single? (← path.nodes env root v)).any fun n => op.holds n.value literal
  | .resembles path pattern, v => do
    return (single? (← path.nodes env root v)).any fun n => n.value.string?.any pattern.isMatch
  | .not p, v => do return !(← p.holds env root v)
  | .logical .and left right, v => do
    if ← left.holds env root v then right.holds env root v else return false
  | .logical .or left right, v => do
    if ← left.holds env root v then return true else right.holds env root v
termination_by structural p => p

def Subpath.nodes (env : Environment) (root : Value) :
    Subpath → Value → Except EvalError (List Node)
  | .mk .current segments, v => resolve env root segments [.ofRoot v]
  | .mk .root segments, _ => resolve env root segments [.ofRoot root]
termination_by structural p => p

/-- Applies segments one after the other, each to all nodes found so far. -/
def resolve (env : Environment) (root : Value) :
    List Segment → List Node → Except EvalError (List Node)
  | [], nodes => .ok nodes
  | segment :: rest, nodes => do
    resolve env root rest (← collect (fun n => segment.select env root n) nodes)
termination_by structural segments => segments

end

def Segment.apply (s : Segment) (env : Environment) (root : Value) (nodes : List Node) :
    Except EvalError (List Node) :=
  collect (s.select env root) nodes

/-- What a query finds in a document. -/
def Query.find (q : Query) (env : Environment) (document : Value) :
    Except EvalError (List Node) :=
  resolve env document q.segments [.ofRoot document]

end PathQuery
