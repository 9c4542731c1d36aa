import PathQuery.Query.Basic
/-! The canonical text of queries: bracket notation, and parentheses around every connective. -/
namespace PathQuery
variable [Pattern.Engine]

def Connective.text : Connective → String
  | and => "and"
  | or => "or"

def Anchor.text : Anchor → String
  | current => "@"
  | root => "$"

/-- A name in single quotes, in which quotes and backslashes are escaped. -/
def escapeName : Char → List Char
  | '\\' => ['\\', '\\']
  | '\'' => ['\\', '\'']
  | c => [c]

def quoteName (name : String) : String :=
  "'" ++ String.ofList (name.toList.flatMap escapeName) ++ "'"

def indexText (i : Int64) : String := i.toInt.repr

def boundText (bound : Option Int64) : String := (bound.map indexText).getD ""

def stepText : Option Int64 → String
  | some step => ":" ++ indexText step
  | none => ""

mutual

def Segment.text : Segment → String
  | .field name => "[" ++ quoteName name ++ "]"
  | .wild => "[*]"
  | .recursive => ".."
  | .index i => "[" ++ indexText i ++ "]"
  | .slice start stop step => "[" ++ boundText start ++ ":" ++ boundText stop ++ stepText step ++ "]"
  | .union names => "[" ++ ", ".intercalate (names.map quoteName) ++ "]"
  | .filter p => "[?(" ++ p.text ++ ")]"
  | .function name args => "[" ++ name ++ "(" ++ ", ".intercalate (args.map Value.text) ++ ")]"

def Predicate.text : Predicate → String
  | .present path => path.text
  | .compare path op value => path.text ++ " " ++ op.text ++ " " ++ value.text
  | .resembles path pattern => path.text ++ " =~ " ++ pattern.text
  | .not p => "not (" ++ p.text ++ ")"
  | .logical op left right => "(" ++ left.text ++ " " ++ op.text ++ " " ++ right.text ++ ")"

def Subpath.text : Subpath → String
  | .mk anchor segments => anchor.text ++ segmentsText segments

def segmentsText : List Segment → String
  | [] => ""
  | segment :: rest => segment.text ++ segmentsText rest

end

def Query.text (q : Query) : String := "$" ++ segmentsText q.segments

end PathQuery
