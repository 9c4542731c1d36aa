import PathQuery.Query.Basic
import PathQuery.Query.Literal
import PathQuery.Text.Taken
import PathQuery.Token.Marked
/-!
Parsing tokens into queries. When the tokens run out, the parser sees the end of the query at the
place `stop`. What stands in parentheses, after `not` or in a filter is one level further down, and
each level is built upon the parsers of the next.
-/
namespace PathQuery
open Token SyntaxError
variable [Pattern.Engine]

/-- Reads from tokens that end at `stop`. -/
abbrev Parser (α : Type) :=
  (stop : Position) → (ts : List Token) → Except SyntaxError (Taken α ts)

/-- What is left after reading nothing or more. -/
abbrev Left (α : Type) (ts : List Token) := { r : α × List Token // r.2.length ≤ ts.length }

/-- The parsers for what is one level further down. -/
structure Level where
  disjunction : Parser Predicate
  atom : Parser Predicate

namespace Parser

def fail {α : Type} (cause : Cause) (position : Position) : Except SyntaxError α :=
  .error ⟨cause, position⟩

/-- Places what is wrong with a token at the token. -/
def locate {α : Type} (position : Position) : Except Cause α → Except SyntaxError α
  | .ok a => .ok a
  | .error cause => fail cause position

/-- The kind in front. -/
def peek (ts : List Token) : Kind :=
  match ts with
  | [] => .endOfQuery
  | t :: _ => t.kind

/-- The place of the token in front. -/
def place (stop : Position) (ts : List Token) : Position :=
  match ts with
  | [] => stop
  | t :: _ => t.position

/-- Passes a token of this kind; otherwise `cause` tells what is there instead. -/
def expect (kind : Kind) (cause : Kind → Cause) (stop : Position) (ts : List Token) :
    Except SyntaxError (Taken Unit ts) :=
  match ts with
  | [] => fail (cause .endOfQuery) stop
  | t :: rest =>
    if t.kind = kind then .ok ⟨(), rest, by simp⟩ else fail (cause t.kind) t.position

def literal : Parser Value := fun stop ts =>
  match ts with
  | [] => fail (.expectedLiteral .endOfQuery) stop
  | t :: rest => do
    let value ← locate t.position (Value.ofKind t.kind)
    return ⟨value, rest, by simp⟩

def regex : Parser Pattern := fun stop ts =>
  match ts with
  | [] => fail (.expectedRegex .endOfQuery) stop
  | t :: rest =>
    match t.kind with
    | .regex raw flags => do
      let pattern ← locate t.position (Pattern.ofRaw raw flags)
      return ⟨pattern, rest, by simp⟩
    | k => fail (.expectedRegex k) t.position

/-! Bracketed selections -/

/-- The parts of an index or a slice, newest first, up to the end of the brackets or a comma. -/
def sliceParts (parts : List (Option Int64)) (ts : List Token) :
    Except SyntaxError (Left (List (Option Int64)) ts) :=
  match ts with
  | [] => .ok ⟨(parts, []), by simp⟩
  | t :: rest =>
    match t.kind with
    | .closeBracket | .comma | .endOfQuery => .ok ⟨(parts, t :: rest), by simp⟩
    | .colon =>
      if 3 ≤ parts.length then fail .tooManyColons t.position
      else do
        let ⟨r, h⟩ ← sliceParts (none :: parts) rest
        return ⟨r, by simp; omega⟩
    | .int digits => do
      let i ← locate t.position (Int64.ofDigits digits)
      match parts with
      | none :: older =>
        let ⟨r, h⟩ ← sliceParts (some i :: older) rest
        return ⟨r, by simp; omega⟩
      | _ => fail (.expectedColon digits) t.position
    | k => fail (.unexpectedInSlice k) t.position

/-- An index from one part, a slice from two or three. -/
def ofParts : List (Option Int64) → Except Cause Segment
  | [some i] => .ok (.index i)
  | [start, stop] => .ok (.slice start stop none)
  | [start, stop, step] =>
    if step = some 0 then .error .zeroStep else .ok (.slice start stop step)
  | _ => .error .expectedIndex

/-- Reads what a colon or a whole number begins. -/
def sliceOrIndex (first : Token) (ts : List Token) :
    Except SyntaxError (Left Segment ts) := do
  let ⟨(parts, rest), h⟩ ← sliceParts [none] ts
  let segment ← locate first.position (ofParts parts.reverse)
  return ⟨(segment, rest), h⟩

/-- Quoted names with commas between them. -/
def names (stop : Position) (ts : List Token) : Except SyntaxError (Taken (List String) ts) :=
  match ts with
  | [] => fail (.expectedName .endOfQuery) stop
  | t :: rest =>
    match t.kind with
    | .string _ raw => do
      let name ← locate t.position (unescape raw)
      if peek rest = .comma then
        let others ← names stop rest.tail
        return (others.map (name :: ·)).after (by simp; omega)
      else return ⟨[name], rest, by simp⟩
    | k => fail (.expectedName k) t.position
termination_by ts.length
decreasing_by simp only [List.length_tail, List.length_cons]; omega

def ofNames : List String → Segment
  | [name] => .field name
  | names => .union names

/-- The arguments of a call that `callee` begins, one at least, and the closing parenthesis. -/
def arguments (callee : Token) (stop : Position) (ts : List Token) :
    Except SyntaxError (Taken (List Value) ts) := do
  let arg ← literal stop ts
  have shorter : arg.rest.tail.length < ts.length := by
    have := arg.shorter
    simp
    omega
  match peek arg.rest with
  | .comma =>
    let others ← arguments callee stop arg.rest.tail
    return (others.map (arg.value :: ·)).after (Nat.le_of_lt shorter)
  | .closeParen => return ⟨[arg.value], arg.rest.tail, shorter⟩
  | .endOfQuery => fail .unclosedCall callee.position
  | k => fail (.expectedComma k) (place stop arg.rest)
termination_by ts.length
decreasing_by exact shorter

/-- Reads the rest of a call, which has to fit a function of the environment. -/
def call (env : Environment) (callee : Token) (name : String) (stop : Position)
    (ts : List Token) : Except SyntaxError (Taken Segment ts) := do
  let opened ← expect .openParen (.expectedArguments name) stop ts
  have shorter : opened.rest.tail.length < ts.length := by
    have := opened.shorter
    simp
    omega
  let args ←
    if peek opened.rest = .closeParen then pure ⟨[], opened.rest.tail, shorter⟩
    else do
      let args ← arguments callee stop opened.rest
      pure (args.after (Nat.le_of_lt opened.shorter))
  let _ ← locate callee.position ((env.resolve name args.value).mapError .call)
  return args.map (.function name)

/-- The tokens before the bracket that closes a filter, its place, and what follows it. -/
def untilClosed? (depth : Nat) (ts : List Token) :
    Option (Taken (List Token × Position) ts) :=
  match ts with
  | [] => none
  | t :: rest =>
    let through (depth : Nat) : Option (Taken (List Token × Position) (t :: rest)) :=
      (untilClosed? depth rest).map fun r =>
        (r.map fun (body, closing) => (t :: body, closing)).after (by simp)
    match t.kind, depth with
    | .endOfQuery, _ => none
    | .openBracket, depth => through (depth + 1)
    | .closeBracket, 0 => some ⟨([], t.position), rest, by simp⟩
    | .closeBracket, depth + 1 => through depth
    | _, depth => through depth

/-- What is nested at `position` is one level further down, if there is one. -/
def nested (inner : Option Level) (position : Position) : Except SyntaxError Level :=
  match inner with
  | some level => .ok level
  | none => fail .tooDeep position

/-- Accepts a predicate only if the tokens end with it. -/
def whole (p : Parser Predicate) (stop : Position) (ts : List Token) :
    Except SyntaxError Predicate := do
  let predicate ← p stop ts
  match peek predicate.rest with
  | .endOfQuery => return predicate.value
  | k => fail (.unexpectedInFilter k) (place stop predicate.rest)

/-- Reads a filter after its question mark, through the bracket that closes it. -/
def filter (inner : Option Level) (question : Token) (ts : List Token) :
    Except SyntaxError (Taken Segment ts) := do
  match untilClosed? 0 ts with
  | none => fail .unclosedBrackets question.position
  | some cut =>
    let (body, closing) := cut.value
    if body.isEmpty then fail .expectedFilter question.position
    let level ← nested inner question.position
    let predicate ← whole level.disjunction closing body
    return cut.map fun _ => .filter predicate

/-- Reads the bracket that closes a selection. -/
def close (opened : Token) (stop : Position) (ts : List Token) :
    Except SyntaxError (Taken Unit ts) :=
  match peek ts with
  | .endOfQuery => fail .unclosedBrackets opened.position
  | _ => expect .closeBracket .expectedCloseBracket stop ts

/-- Reads a selection after its opening bracket. -/
def brackets (env : Environment) (inner : Option Level) (opened : Token) (stop : Position)
    (ts : List Token) : Except SyntaxError (Taken Segment ts) :=
  match ts with
  | [] => fail .unclosedBrackets opened.position
  | t :: rest =>
    match t.kind with
    | .star => do
      let closed ← close opened stop rest
      return (closed.map fun _ => .wild).after (by simp)
    | .int _ | .colon => do
      let ⟨(segment, left), h⟩ ← sliceOrIndex t (t :: rest)
      let closed ← close opened stop left
      return (closed.map fun _ => segment).after h
    | .string .. => do
      let found ← names stop (t :: rest)
      let closed ← close opened stop found.rest
      return (closed.map fun _ => ofNames found.value).after (Nat.le_of_lt found.shorter)
    | .function name => do
      let segment ← call env t name stop rest
      let closed ← close opened stop segment.rest
      return (closed.map fun _ => segment.value).after (by
        have := segment.shorter
        simp
        omega)
    | .question => do
      let segment ← filter inner t rest
      return segment.after (by simp)
    | .closeBracket => fail .emptyBrackets opened.position
    | .endOfQuery => fail .unclosedBrackets opened.position
    | k => fail (.unexpectedInBrackets k) t.position

/-! Paths -/

/-- What two dots are followed by. -/
def descendant (env : Environment) (inner : Option Level) : Parser Segment := fun stop ts =>
  match ts with
  | [] => fail (.expectedAfterDescendant .endOfQuery) stop
  | t :: rest =>
    match t.kind with
    | .openBracket => do
      let segment ← brackets env inner t stop rest
      return segment.after (by simp)
    | .name name => .ok ⟨.field name, rest, by simp⟩
    | .star => .ok ⟨.wild, rest, by simp⟩
    | k => fail (.expectedAfterDescendant k) t.position

/-- What one dot is followed by. -/
def shorthand (env : Environment) : Parser Segment := fun stop ts =>
  match ts with
  | [] => fail (.expectedAfterDot .endOfQuery) stop
  | t :: rest =>
    match t.kind with
    | .function name => do
      let segment ← call env t name stop rest
      return segment.after (by simp)
    | .name name => .ok ⟨.field name, rest, by simp⟩
    | .star => .ok ⟨.wild, rest, by simp⟩
    | k => fail (.expectedAfterDot k) t.position

/-- Segments up to the first token that begins none. -/
def segments (env : Environment) (inner : Option Level) (stop : Position) (ts : List Token) :
    Except SyntaxError (Left (List Segment) ts) :=
  match ts with
  | [] => .ok ⟨([], []), by simp⟩
  | t :: rest =>
    match t.kind with
    | .doubleDot => do
      let segment ← descendant env inner stop rest
      have := segment.shorter
      let ⟨(more, left), h⟩ ← segments env inner stop segment.rest
      return ⟨(.recursive :: segment.value :: more, left), by simp_all; omega⟩
    | .dot => do
      let segment ← shorthand env stop rest
      have := segment.shorter
      let ⟨(more, left), h⟩ ← segments env inner stop segment.rest
      return ⟨(segment.value :: more, left), by simp_all; omega⟩
    | .openBracket => do
      let segment ← brackets env inner t stop rest
      have := segment.shorter
      let ⟨(more, left), h⟩ ← segments env inner stop segment.rest
      return ⟨(segment.value :: more, left), by simp_all; omega⟩
    | _ => .ok ⟨([], t :: rest), by simp⟩
termination_by ts.length
decreasing_by all_goals simp; omega

def anchor? : Kind → Option Anchor
  | .current => some .current
  | .root => some .root
  | _ => none

/-! Predicates -/

/-- Reads the operator and the literal or pattern after a path, if there are any. -/
def test (env : Environment) (inner : Option Level) (anchor : Anchor) (stop : Position)
    (ts : List Token) : Except SyntaxError (Left Predicate ts) := do
  let ⟨(found, left), h⟩ ← segments env inner stop ts
  let path := Subpath.mk anchor found
  match peek left with
  | .compare op =>
    let value ← literal stop left.tail
    return ⟨(.compare path op value.value, value.rest), by
      have := value.shorter
      simp_all
      omega⟩
  | .tilde =>
    let pattern ← regex stop left.tail
    return ⟨(.resembles path pattern.value, pattern.rest), by
      have := pattern.shorter
      simp_all
      omega⟩
  | _ => return ⟨(.present path, left), h⟩

/-- Reads the operator and the path after a literal, and exchanges the sides. -/
def flipped (env : Environment) (inner : Option Level) (value : Value) (first : Token)
    (stop : Position) (ts : List Token) : Except SyntaxError (Taken Predicate ts) :=
  match ts with
  | [] => fail .uncompared first.position
  | t :: rest =>
    match t.kind with
    | .compare op =>
      match rest with
      | [] => fail (.expectedPath op .endOfQuery) stop
      | u :: after =>
        match anchor? u.kind with
        | some anchor => do
          let ⟨(found, left), h⟩ ← segments env inner stop after
          return ⟨.compare (.mk anchor found) op.flip value, left, by simp at h ⊢; omega⟩
        | none => fail (.expectedPath op u.kind) u.position
    | _ => fail .uncompared first.position

def atom (env : Environment) (inner : Option Level) : Parser Predicate := fun stop ts =>
  match ts with
  | [] => fail .expectedFilter stop
  | t :: rest =>
    match t.kind with
    | .openParen => do
      let level ← nested inner t.position
      let predicate ← level.disjunction stop rest
      let closed ← expect .closeParen .expectedCloseParen stop predicate.rest
      return (closed.map fun _ => predicate.value).after (by
        have := predicate.shorter
        simp
        omega)
    | .not => do
      let level ← nested inner t.position
      let predicate ← level.atom stop rest
      return (predicate.map .not).after (by simp)
    | .current => do
      let ⟨(predicate, left), h⟩ ← test env inner .current stop rest
      return ⟨predicate, left, by simp at h ⊢; omega⟩
    | .root => do
      let ⟨(predicate, left), h⟩ ← test env inner .root stop rest
      return ⟨predicate, left, by simp at h ⊢; omega⟩
    | .string .. | .int _ | .float _ | .true | .false | .null => do
      let value ← locate t.position (Value.ofKind t.kind)
      let predicate ← flipped env inner value t stop rest
      return predicate.after (by simp)
    | .endOfQuery | .closeParen => fail .expectedFilter t.position
    | k => fail (.unexpectedInFilter k) t.position

/-- Joins `left` with the operands that follow it, from the left. -/
def chain (operator : Kind) (connective : Connective) (operand : Parser Predicate)
    (left : Predicate) (stop : Position) (ts : List Token) :
    Except SyntaxError (Left Predicate ts) :=
  match ts with
  | [] => .ok ⟨(left, []), by simp⟩
  | t :: rest =>
    if t.kind = operator then do
      let right ← operand stop rest
      have := right.shorter
      let ⟨r, h⟩ ←
        chain operator connective operand (.logical connective left right.value) stop right.rest
      return ⟨r, by simp_all; omega⟩
    else .ok ⟨(left, t :: rest), by simp⟩
termination_by ts.length
decreasing_by simp; omega

/-- Operands with an operator between them. -/
def chained (operator : Kind) (connective : Connective) (operand : Parser Predicate) :
    Parser Predicate := fun stop ts => do
  let first ← operand stop ts
  let ⟨(predicate, left), h⟩ ← chain operator connective operand first.value stop first.rest
  return ⟨predicate, left, Nat.lt_of_le_of_lt h first.shorter⟩

def conjunction (env : Environment) (inner : Option Level) : Parser Predicate :=
  chained .and .and (atom env inner)

def disjunction (env : Environment) (inner : Option Level) : Parser Predicate :=
  chained .or .or (conjunction env inner)

/-- The parsers for what may itself nest `depth` levels less one. -/
def level (env : Environment) : Nat → Option Level
  | 0 => none
  | depth + 1 =>
    let inner := level env depth
    some ⟨disjunction env inner, atom env inner⟩

/-- Levels of parentheses, negations and filters within filters. -/
def maxDepth : Nat := 64

/-- The tokens of a list end where its last one stands. -/
def stopOf (ts : List Token) : Position := (ts.getLast?.map Token.position).getD {}

end Parser

/-- The predicate that tokens spell, without the brackets of the filter around it. -/
def Predicate.ofTokens (env : Environment) (ts : List Token) : Except SyntaxError Predicate :=
  Parser.whole (Parser.disjunction env (Parser.level env Parser.maxDepth)) (Parser.stopOf ts) ts

namespace Query

def ofTokens (env : Environment) (ts : List Token) : Except SyntaxError Query := do
  let stop := Parser.stopOf ts
  let root ← Parser.expect .root .expectedRoot stop ts
  let ⟨(segments, rest), _⟩ ←
    Parser.segments env (Parser.level env Parser.maxDepth) stop root.rest
  match Parser.peek rest with
  | .endOfQuery => return ⟨segments⟩
  | k => Parser.fail (.expectedEnd k) (Parser.place stop rest)

end Query

/-- The tokens of a text, if none of them is invalid. -/
def lex (text : String) : Except SyntaxError (List Token) :=
  let ts := Lexer.tokenize text
  match ts.getLast? with
  | some ⟨.invalid cause, _, _, _, place⟩ => .error ⟨.lexical cause, place⟩
  | _ => .ok ts

/-- The query that a text spells in an environment. -/
def Query.parse (env : Environment) (text : String) : Except SyntaxError Query := do
  ofTokens env (← lex text)

end PathQuery
