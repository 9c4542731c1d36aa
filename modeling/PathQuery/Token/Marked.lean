import PathQuery.Token.Lexer
/-!
Splitting a text of which nothing has been cut off. The end mark U+0000 is then one of its
characters, and whatever reads on has to stop at it by itself.
-/
namespace PathQuery

namespace Scan

/-- `string` in a text that may hold the mark. -/
def markedString (quote : Char) (opened : Position) (read : Nat) : List Char → Result
  | [] | '\x00' :: _ => .error (.unclosedString opened, read)
  | '\\' :: c :: rest =>
    if isEscapable c then markedString quote opened (read + 2) rest
    else .error (.invalidEscape, read + 1)
  | ['\\'] => .error (.invalidEscape, read + 1)
  | c :: rest => if c = quote then .ok (read + 1) else markedString quote opened (read + 1) rest

/-- `regex` in a text that may hold the mark. -/
def markedRegex (opened : Position) (read : Nat) : List Char → Result
  | [] | '\x00' :: _ => .error (.unclosedRegex opened, read)
  | ['\\'] | '\\' :: '\x00' :: _ => .error (.unclosedRegex opened, read + 1)
  | '\\' :: _ :: rest => markedRegex opened (read + 2) rest
  | '/' :: _ => .ok (read + 1)
  | _ :: rest => markedRegex opened (read + 1) rest

end Scan

namespace Lexer
open Scan Token

section
variable (next : Mode) (parens : List Nat) (here : Position) (text : List Char)

def markedStringToken (quote : Quote) : Action :=
  ofResult (markedString quote.char here 1 (text.drop 1)) fun length =>
    .emit (.string quote (lexeme (text.drop 1) (length - 2))) length next parens

def markedRegexToken : Action :=
  ofResult (markedRegex here 1 (text.drop 1)) fun length =>
    let flags := (text.drop length).takeWhile isFlag
    .emit (.regex (lexeme (text.drop 1) (length - 2)) (String.ofList flags))
      (length + flags.length) .filter parens

end

/-- The answer of a mode to a text that may hold the mark. In front the mark looks like the end, as
the end looks like the mark. -/
def Mode.answer (mode : Mode) (parens : List Nat) (here : Position) (text : List Char) : Action :=
  match mode, text with
  | _, '\x00' :: _ => mode.action parens here []
  | brackets, '\'' :: _ | arguments, '\'' :: _ | filter, '\'' :: _ =>
    markedStringToken mode parens here text .single
  | brackets, '"' :: _ | arguments, '"' :: _ | filter, '"' :: _ =>
    markedStringToken mode parens here text .double
  | regex, '/' :: _ => markedRegexToken parens here text
  | _, _ => mode.action parens here text

namespace Machine

/-- Carries out what the mode answered to the text at the cursor. -/
def obey (m : Machine) (cursor : Cursor) : Action → Machine
  | .emit kind length next parens =>
    ⟨next, parens, cursor.advance length, cursor.token kind length :: m.tokens⟩
  | .handOver next => { m with mode := next, cursor }
  | .fail cause length =>
    ⟨.failed, m.parens, cursor, cursor.token (.invalid cause) length :: m.tokens⟩

/-- A step in a text that may hold the mark. -/
def markedStep (m : Machine) : Machine :=
  if m.mode.isFinal then m
  else
    let cursor := m.cursor.skipBlank
    m.obey cursor (m.mode.answer m.parens cursor.position cursor.rest)

def markedRun (m : Machine) : Nat → Machine
  | 0 => m
  | fuel + 1 => if m.mode.isFinal then m else m.markedStep.markedRun fuel

end Machine

/-- The tokens of a text; the last one is the end of the query or says what is wrong. -/
def tokenize (text : String) : List Token :=
  let m : Machine := { cursor := { rest := text.toList } }
  (m.markedRun (2 * text.toList.length + 2)).tokens.reverse

end Lexer

end PathQuery
