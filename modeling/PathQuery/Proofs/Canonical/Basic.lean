import PathQuery.Proofs.Number.Printing
import PathQuery.Proofs.Query.Admission
import PathQuery.Proofs.Token.Lexemes

/-! The tokens of canonical texts, the queries they are read as, and the levels they open. -/
namespace PathQuery
open Token
variable [Pattern.Engine]

/-- The token of a quoted name. -/
def nameKind (name : String) : Kind :=
  .string .single (String.ofList (name.toList.flatMap escapeName))

/-- The token of a literal. An infinity has no numeral and is written as null. -/
def Value.literalKind : Value → Kind
  | .bool true => .true
  | .bool false => .false
  | .number x => if x.isFinite then Lexer.numberKind (Value.number x).text.toList else .null
  | .string s => .string .double (String.ofList (s.toList.flatMap Json.escape))
  | _ => .null

def Pattern.kind (p : Pattern) : Kind :=
  .regex (String.ofList (p.source.toList.flatMap Pattern.escapeSlash)) p.flags

def sliceKinds (start stop step : Option Int64) : List Kind :=
  Grammar.bound start ++ .colon :: (Grammar.bound stop ++
    match step with
    | some i => [.colon, .int (indexText i)]
    | none => [])

mutual

def Segment.kinds : Segment → List Kind
  | .field name => [.openBracket, nameKind name, .closeBracket]
  | .wild => [.openBracket, .star, .closeBracket]
  | .recursive => [.doubleDot]
  | .index i => [.openBracket, .int (indexText i), .closeBracket]
  | .slice start stop step => .openBracket :: (sliceKinds start stop step ++ [.closeBracket])
  | .union names =>
    .openBracket :: ((names.map nameKind).intersperse .comma ++ [.closeBracket])
  | .filter p =>
    .openBracket :: .question :: (.openParen :: (p.kinds ++ [.closeParen]) ++ [.closeBracket])
  | .function name args =>
    .openBracket :: (.function name :: .openParen ::
      ((args.map Value.literalKind).intersperse .comma ++ [.closeParen]) ++ [.closeBracket])
termination_by structural s => s

def Predicate.kinds : Predicate → List Kind
  | .present path => path.kinds
  | .compare path op value => path.kinds ++ [.compare op, value.literalKind]
  | .resembles path pattern => path.kinds ++ [.tilde, pattern.kind]
  | .not p => .not :: .openParen :: (p.kinds ++ [.closeParen])
  | .logical op left right =>
    .openParen :: (left.kinds ++ Grammar.connective op :: right.kinds ++ [.closeParen])
termination_by structural p => p

def Subpath.kinds : Subpath → List Kind
  | .mk anchor segments => Grammar.place anchor :: segmentsKinds segments
termination_by structural p => p

def segmentsKinds : List Segment → List Kind
  | [] => []
  | segment :: rest => segment.kinds ++ segmentsKinds rest
termination_by structural segments => segments

end

mutual

/-- The levels that the canonical text of a segment opens. -/
def Segment.nesting : Segment → Nat
  | .filter p => p.nesting + 2
  | _ => 0
termination_by structural s => s

/-- The levels that the canonical text of a predicate opens: one for each parenthesis and each
negation. -/
def Predicate.nesting : Predicate → Nat
  | .present path => path.nesting
  | .compare path _ _ => path.nesting
  | .resembles path _ => path.nesting
  | .not p => p.nesting + 2
  | .logical _ left right => max left.nesting right.nesting + 1
termination_by structural p => p

def Subpath.nesting : Subpath → Nat
  | .mk _ segments => segmentsNesting segments
termination_by structural p => p

def segmentsNesting : List Segment → Nat
  | [] => 0
  | segment :: rest => max segment.nesting (segmentsNesting rest)
termination_by structural segments => segments

end

/-- The literal that is read of what is printed of a literal. -/
def Value.reread : Value → Value
  | .number x => if x.isFinite then .number x.reread else .null
  | v => v

mutual

def Segment.reread : Segment → Segment
  | .filter p => .filter p.reread
  | .function name args => .function name (args.map Value.reread)
  | s => s
termination_by structural s => s

def Predicate.reread : Predicate → Predicate
  | .present path => .present path.reread
  | .compare path op value => .compare path.reread op value.reread
  | .resembles path pattern => .resembles path.reread pattern
  | .not p => .not p.reread
  | .logical op left right => .logical op left.reread right.reread
termination_by structural p => p

def Subpath.reread : Subpath → Subpath
  | .mk anchor segments => .mk anchor (rereadSegments segments)
termination_by structural p => p

def rereadSegments : List Segment → List Segment
  | [] => []
  | segment :: rest => segment.reread :: rereadSegments rest
termination_by structural segments => segments

end

/-- An argument that can be written in a call. -/
def Value.IsArgument : Value → Prop
  | .number x => x.isFinite = true
  | .string _ => True
  | _ => False

/-- A literal that is no infinity. -/
def Value.IsFinite : Value → Prop
  | .number x => x.isFinite = true
  | _ => True

/-- Names without U+0000, at which a text ends, and functions whose names need no quotes. -/
def Segment.Printable : Segment → Prop
  | .field name => '\x00' ∉ name.toList
  | .union names => ∀ name ∈ names, '\x00' ∉ name.toList
  | .function name args => Lexer.IsName name.toList ∧ ∀ arg ∈ args, arg.IsArgument
  | _ => True

/-- What the lexer needs of a segment and what follows it, apart from its names. -/
def Segment.Writable (s : Segment) (rest : List Segment) : Prop :=
  match s with
  | .function name args => Lexer.IsName name.toList ∧ ∀ arg ∈ args, arg.IsArgument
  | .recursive => ∃ next more, rest = next :: more ∧ next ≠ .recursive
  | _ => True

def Predicate.Finite : Predicate → Prop
  | .compare _ _ value => value.IsFinite
  | _ => True

namespace Query

def kinds (q : Query) : List Kind := .root :: segmentsKinds q.segments

def nesting (q : Query) : Nat := segmentsNesting q.segments

def reread (q : Query) : Query := ⟨rereadSegments q.segments⟩

/-- What the canonical text of a query has to express in order to be read as the query. -/
structure Canonical (env : Environment) (q : Query) : Prop where
  admitted : q.Admitted env
  printable : q.Everywhere (fun s _ => s.Printable) Predicate.Finite
  shallow : q.nesting ≤ Parser.maxDepth

end Query
end PathQuery
