import PathQuery.Json.Reader
import PathQuery.Query.Eval
import PathQuery.Query.Parser
import PathQuery.Regex.Search
import PathQuery.Text.Quoted
/-! The command line: a query as its argument, a document as its input, one line per match. -/
namespace PathQuery.Cli
variable [Pattern.Engine]

structure Outcome where
  status : Nat
  stdout : String
  stderr : String
  deriving DecidableEq, Repr

inductive Failure where
  | usage
  | syntaxError (e : SyntaxError)
  | evaluation (e : EvalError)
  | document

/-- An error of the engine with its kind, message and place. -/
def report (kind message : String) (p : Position) : String :=
  "Error: JSONPathError \x7b kind: " ++ kind ++ ", msg: " ++ Quoted.quote message ++
    ", line: " ++ p.line.repr ++ ", column: " ++ p.column.repr ++ " \x7d\n"

def Failure.text : Failure → String
  | usage => "Error: \"usage: jsonpath-engine QUERY < DOCUMENT\"\n"
  | syntaxError e => report "SyntaxError" e.message e.position
  | evaluation e => report "EvaluationError" e.message ⟨0, 0⟩
  | document => "document error"

def line (n : Node) : String := n.path ++ " => " ++ n.value.text ++ "\n"

/-- What the query finds in the document; the query is looked at first. -/
def nodes (args : List String) (input : String) : Except Failure (List Node) := do
  let text ← match args with
    | [] => throw .usage
    | text :: _ => pure text
  let query ← (Query.parse .standard text).mapError .syntaxError
  let document ← match Json.ofText? input with
    | none => throw .document
    | some document => pure document
  (query.find .standard (Value.ofJson document)).mapError .evaluation

def run (args : List String) (input : String) : Outcome :=
  match nodes args input with
  | .ok found => ⟨0, String.join (found.map line), ""⟩
  | .error failure => ⟨1, "", failure.text⟩

end PathQuery.Cli
