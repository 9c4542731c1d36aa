import PathQuery.Token.Scan
/-!
Splitting a query text into tokens. What may come next depends on where the text has arrived, so
the lexer is a machine with one mode per place and a count of open parentheses per open filter.
-/
namespace PathQuery.Lexer
open Scan Token

inductive Mode where
  | root | segment | descendant | shorthand | brackets | arguments | filter | regex
  | done | failed
  deriving DecidableEq, Repr

def Mode.isFinal : Mode → Bool
  | done | failed => true
  | _ => false

/-- The answer of a mode to the text in front of it. -/
inductive Action where
  | emit (kind : Kind) (length : Nat) (next : Mode) (parens : List Nat)
  | handOver (next : Mode)
  | fail (cause : LexError) (length : Nat)

/-- The character in front; the end of the text looks like U+0000. -/
def peek (text : List Char) : Char := text.headD '\x00'

def ofResult {α : Type} (r : Except (LexError × Nat) α) (emit : α → Action) : Action :=
  match r with
  | .ok a => emit a
  | .error (cause, length) => .fail cause length

def lexeme (text : List Char) (length : Nat) : String := String.ofList (text.take length)

def nameLength (text : List Char) : Nat := (text.takeWhile isNameChar).length

/-- Whether an opening parenthesis follows directly. -/
def isCall (text : List Char) (length : Nat) : Bool := (text.drop length).head? = some '('

section
variable (next : Mode) (parens : List Nat) (here : Position) (text : List Char)

def stringToken (quote : Quote) : Action :=
  ofResult (Scan.string quote.char here 1 (text.drop 1)) fun length =>
    .emit (.string quote (lexeme (text.drop 1) (length - 2))) length next parens

def numberToken : Action :=
  ofResult (number text) fun (length, isFloat) =>
    let digits := lexeme text length
    .emit (if isFloat then .float digits else .int digits) length next parens

def regexToken : Action :=
  ofResult (Scan.regex here 1 (text.drop 1)) fun length =>
    let flags := (text.drop length).takeWhile isFlag
    .emit (.regex (lexeme (text.drop 1) (length - 2)) (String.ofList flags))
      (length + flags.length) .filter parens

end

def rootAction (parens : List Nat) (text : List Char) : Action :=
  match text with
  | '$' :: _ => .emit .root 1 .segment parens
  | _ => .fail (.expectedRoot (peek text)) 0

def segmentAction (parens : List Nat) (text : List Char) : Action :=
  match text with
  | '.' :: '.' :: _ => .emit .doubleDot 2 .descendant parens
  | '.' :: _ => .emit .dot 1 .shorthand parens
  | '[' :: _ => .emit .openBracket 1 .brackets parens
  | _ =>
    if parens ≠ [] then .handOver .filter
    else match text with
      | [] => .emit .endOfQuery 0 .done parens
      | c :: _ => .fail (.expectedSegment c) 0

def descendantAction (parens : List Nat) (text : List Char) : Action :=
  match text with
  | '*' :: _ => .emit .star 1 .segment parens
  | '[' :: _ => .emit .openBracket 1 .brackets parens
  | _ =>
    if isNameFirst (peek text) then
      .emit (.name (lexeme text (nameLength text))) (nameLength text) .segment parens
    else .fail (.unexpectedAfterDescendant (peek text)) 0

def shorthandAction (parens : List Nat) (text : List Char) : Action :=
  match text with
  | '*' :: _ => .emit .star 1 .segment parens
  | _ =>
    let length := nameLength text
    if isNameFirst (peek text) then
      if isCall text length then .emit (.function (lexeme text length)) length .arguments parens
      else .emit (.name (lexeme text length)) length .segment parens
    else .fail (.unexpectedAfterDot (peek text)) 0

def bracketsAction (parens : List Nat) (here : Position) (text : List Char) : Action :=
  match text with
  | [] => .fail .unclosedBrackets 0
  | ']' :: _ => .emit .closeBracket 1 .segment parens
  | '*' :: _ => .emit .star 1 .brackets parens
  | '?' :: _ => .emit .question 1 .filter (0 :: parens)
  | ',' :: _ => .emit .comma 1 .brackets parens
  | ':' :: _ => .emit .colon 1 .brackets parens
  | '(' :: _ => .emit .openParen 1 .brackets parens
  | ')' :: _ => .emit .closeParen 1 .brackets parens
  | '\'' :: _ => stringToken .brackets parens here text .single
  | '"' :: _ => stringToken .brackets parens here text .double
  | c :: _ =>
    let length := nameLength text
    if c = '-' ∨ c.isDigit then numberToken .brackets parens text
    else if isNameFirst c then
      if isCall text length then .emit (.function (lexeme text length)) length .brackets parens
      else .fail (.unquotedName (lexeme text length)) length
    else .fail (.unexpectedInBrackets c) 0

def argumentsAction (parens : List Nat) (here : Position) (text : List Char) : Action :=
  match text with
  | [] => .fail .unclosedCall 0
  | '(' :: _ => .emit .openParen 1 .arguments parens
  | ')' :: _ => .emit .closeParen 1 .segment parens
  | ',' :: _ => .emit .comma 1 .arguments parens
  | '\'' :: _ => stringToken .arguments parens here text .single
  | '"' :: _ => stringToken .arguments parens here text .double
  | c :: _ =>
    if c = '-' ∨ c.isDigit then numberToken .arguments parens text
    else .fail (.unexpectedInArguments c) 0

def wordKind (word : String) (call : Bool) : Kind :=
  match word with
  | "and" => .and
  | "or" => .or
  | "not" => .not
  | "true" => .true
  | "false" => .false
  | "null" => .null
  | _ => if call then .function word else .name word

def filterAction (parens : List Nat) (here : Position) (text : List Char) : Action :=
  match text with
  | [] => .fail .unclosedBrackets 0
  | ']' :: _ =>
    if 0 < parens.headD 0 then .fail .unbalancedParens 0
    else .emit .closeBracket 1 .segment parens.tail
  | '(' :: _ =>
    .emit .openParen 1 .filter (match parens with
      | [] => []
      | count :: outer => (count + 1) :: outer)
  | ')' :: _ =>
    match parens with
    | (count + 1) :: outer => .emit .closeParen 1 .filter (count :: outer)
    | _ => .fail .unbalancedParens 0
  | '\'' :: _ => stringToken .filter parens here text .single
  | '"' :: _ => stringToken .filter parens here text .double
  | '$' :: _ => .emit .root 1 .segment parens
  | '@' :: _ => .emit .current 1 .segment parens
  | '.' :: _ | '[' :: _ => .handOver .segment
  | '!' :: '=' :: _ => .emit (.compare .ne) 2 .filter parens
  | '!' :: _ => .emit .not 1 .filter parens
  | '=' :: '~' :: _ => .emit .tilde 2 .regex parens
  | '=' :: '=' :: _ => .emit (.compare .eq) 2 .filter parens
  | '=' :: _ => .emit (.compare .eq) 1 .filter parens
  | '<' :: '=' :: _ => .emit (.compare .le) 2 .filter parens
  | '<' :: _ => .emit (.compare .lt) 1 .filter parens
  | '>' :: '=' :: _ => .emit (.compare .ge) 2 .filter parens
  | '>' :: _ => .emit (.compare .gt) 1 .filter parens
  | '&' :: '&' :: _ => .emit .and 2 .filter parens
  | '&' :: _ => .fail (.lonely '&') 1
  | '|' :: '|' :: _ => .emit .or 2 .filter parens
  | '|' :: _ => .fail (.lonely '|') 1
  | c :: _ =>
    let length := nameLength text
    if c = '-' ∨ c.isDigit then numberToken .filter parens text
    else if isNameFirst c then
      .emit (wordKind (lexeme text length) (isCall text length)) length .filter parens
    else .fail (.unexpectedInFilter c) 0

def regexAction (parens : List Nat) (here : Position) (text : List Char) : Action :=
  match text with
  | '/' :: _ => regexToken parens here text
  | _ => .fail (.expectedRegex (peek text)) 0

def Mode.action (mode : Mode) (parens : List Nat) (here : Position) (text : List Char) : Action :=
  match mode with
  | root => rootAction parens text
  | segment => segmentAction parens text
  | descendant => descendantAction parens text
  | shorthand => shorthandAction parens text
  | brackets => bracketsAction parens here text
  | arguments => argumentsAction parens here text
  | filter => filterAction parens here text
  | regex => regexAction parens here text
  | done => .handOver .done
  | failed => .handOver .failed

/-- A place in the text, and what follows it. -/
structure Cursor where
  rest : List Char
  offset : Nat := 0
  position : Position := {}

namespace Cursor

def next (c : Cursor) : Cursor :=
  match c.rest with
  | [] => c
  | char :: rest => ⟨rest, c.offset + char.utf8Size, c.position.advance char⟩

def advance (c : Cursor) : Nat → Cursor
  | 0 => c
  | n + 1 => c.next.advance n

def skipBlank (c : Cursor) : Cursor := c.advance (c.rest.takeWhile isBlank).length

/-- The token that the next `length` characters make. -/
def token (c : Cursor) (kind : Kind) (length : Nat) : Token :=
  ⟨kind, lexeme c.rest length, c.offset, (c.advance length).offset, c.position⟩

end Cursor

/-- The lexer at work. Of the open parentheses, those of the innermost filter come first; of the
tokens, the newest. -/
structure Machine where
  mode : Mode := .root
  parens : List Nat := []
  cursor : Cursor
  tokens : List Token := []

namespace Machine

def step (m : Machine) : Machine :=
  if m.mode.isFinal then m
  else
    let cursor := m.cursor.skipBlank
    match m.mode.action m.parens cursor.position cursor.rest with
    | .emit kind length next parens =>
      ⟨next, parens, cursor.advance length, cursor.token kind length :: m.tokens⟩
    | .handOver next => { m with mode := next, cursor }
    | .fail cause length =>
      ⟨.failed, m.parens, cursor, cursor.token (.invalid cause) length :: m.tokens⟩

def run (m : Machine) : Nat → Machine
  | 0 => m
  | fuel + 1 => if m.mode.isFinal then m else m.step.run fuel

end Machine

/-- What a query text says: it ends at its first U+0000. -/
def visible (text : String) : List Char := text.toList.takeWhile (· ≠ '\x00')

/-- The lexer at the beginning of a text that has been cut at its end mark. -/
def start (text : String) : Machine := { cursor := { rest := visible text } }

end PathQuery.Lexer
