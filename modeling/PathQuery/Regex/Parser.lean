import PathQuery.Number.Basic
import PathQuery.Regex.Syntax
import PathQuery.Text.Taken
import PathQuery.Text.Escape
import PathQuery.Unicode.Category
import PathQuery.Unicode.Property
/-!
Parsing regular expressions. A function takes whether spaces and comments are ignored, then the
text; it fails where the expression is malformed, and otherwise returns the text it leaves.
-/
namespace PathQuery.Regex.Parser
open Unicode

def isSpace (c : Char) : Bool := whiteSpace.contains c.toNat

/-- Drops spaces and the comments between `#` and the end of the line. -/
def dropSpace (comment : Bool) : List Char → List Char
  | [] => []
  | c :: rest =>
    if comment then dropSpace (c ≠ '\n') rest
    else if isSpace c then dropSpace false rest
    else if c = '#' then dropSpace true rest
    else c :: rest

def skip (x : Bool) (text : List Char) : List Char := if x then dropSpace false text else text

/-- Skips to a text that must not be empty. -/
def skipTo (x : Bool) (text : List Char) : Option (List Char) :=
  match skip x text with
  | [] => none
  | text => some text

def isMeta (c : Char) : Bool := "\\.+*?()|[]\x7b\x7d^$#&-~".contains c

/-- ASCII other than letters, digits and angle brackets may be escaped to stand for itself. -/
def isEscapable (c : Char) : Bool :=
  isMeta c || (c.toNat < 0x80 && !c.isAlphanum && c ≠ '<' && c ≠ '>')

def special? : Char → Option Char
  | 'a' => some '\x07'
  | 'f' => some '\x0c'
  | 't' => some '\t'
  | 'n' => some '\n'
  | 'r' => some '\r'
  | 'v' => some '\x0b'
  | _ => none

def scalar? (code : Nat) : Option Char :=
  if code < 0xD800 ∨ 0xDFFF < code ∧ code < 0x110000 then some (Char.ofNat code) else none

def hexValue? (digits : List Char) : Option Nat :=
  digits.foldlM (fun n c => (Escape.hexDigit? c).map (n * 16 + ·)) 0

/-- Exactly `count` characters, with spaces skipped between them. -/
def exactly (x : Bool) : Nat → List Char → Option (List Char × List Char)
  | 0, text => some ([], text)
  | count + 1, text =>
    match skip x text with
    | [] => none
    | c :: rest => (exactly x count rest).map fun (cs, rest) => (c :: cs, rest)

/-- All characters before `stop`, with spaces skipped. -/
def upTo (stop : Char) (x comment : Bool) : List Char → Option (List Char × List Char)
  | [] => none
  | c :: rest =>
    if x && comment then upTo stop x (c ≠ '\n') rest
    else if x && isSpace c then upTo stop x false rest
    else if x && c == '#' then upTo stop x true rest
    else if c = stop then some ([], rest)
    else (upTo stop x false rest).map fun (cs, rest) => (c :: cs, rest)

/-- What follows `\x`, `\u` or `\U`: so many digits, or any number of them in braces. -/
def hexLiteral (x : Bool) (count : Nat) (text : List Char) : Option (Literal × List Char) := do
  match ← skipTo x text with
  | '\x7b' :: rest =>
    let (digits, rest) ← upTo '\x7d' x false rest
    guard !digits.isEmpty
    return (⟨← (← hexValue? digits) |> scalar?, false⟩, skip x rest)
  | text =>
    let (digits, rest) ← exactly x count text
    return (⟨← (← hexValue? digits) |> scalar?, count == 2⟩, skip x rest)

/-- Splits at the first place where `mark` stands. -/
def splitAt? (mark : List Char) : List Char → Option (List Char × List Char)
  | [] => none
  | c :: rest =>
    if mark.isPrefixOf (c :: rest) then some ([], (c :: rest).drop mark.length)
    else (splitAt? mark rest).map fun (before, after) => (c :: before, after)

/-- The content of a property in braces, and whether it is an inequality. -/
def propertyQuery (content : List Char) : PropertyQuery × Bool :=
  let text := String.ofList
  match splitAt? ['!', '='] content with
  | some (name, value) => (.valued (text name) (text value), true)
  | none =>
    match splitAt? [':'] content with
    | some (name, value) => (.valued (text name) (text value), false)
    | none =>
      match splitAt? ['='] content with
      | some (name, value) => (.valued (text name) (text value), false)
      | none => (.named (text content), false)

/-- One element of an expression or of a class. -/
inductive Primitive where
  | literal (l : Literal)
  | assertion (a : Assertion)
  | dot
  | perl (c : PerlClass) (negated : Bool)
  | property (q : PropertyQuery) (negated : Bool)

def property (x negated : Bool) (text : List Char) : Option (Primitive × List Char) := do
  match ← skipTo x text with
  | '\x7b' :: rest =>
    let (content, rest) ← upTo '\x7d' x false rest
    let (query, unequal) := propertyQuery content
    return (.property query (negated != unequal), rest)
  | '\\' :: _ => none
  | c :: rest => return (.property (.named (String.singleton c)) negated, skip x rest)
  | [] => none

def isBoundaryChar (c : Char) : Bool := c.isAlpha || c == '-'

/-- What follows `\b`: the kind of boundary in braces, or nothing that belongs to it. -/
def boundary (x : Bool) (text : List Char) : Option (Primitive × List Char) := do
  match text with
  | '\x7b' :: inner =>
    match ← skipTo x inner with
    | [] => none
    | first :: _ =>
      if !isBoundaryChar first then return (.assertion .word, text)
      let (content, rest) ← upTo '\x7d' x false inner
      match String.ofList content with
      | "start" => return (.assertion .wordStart, rest)
      | "end" => return (.assertion .wordEnd, rest)
      | "start-half" => return (.assertion .wordStartHalf, rest)
      | "end-half" => return (.assertion .wordEndHalf, rest)
      | _ => none
  | _ => return (.assertion .word, text)

/-- What follows a backslash. -/
def escape (x : Bool) (text : List Char) : Option (Primitive × List Char) :=
  match text with
  | [] => none
  | c :: rest =>
    match c with
    | 'x' => (hexLiteral x 2 rest).map fun (l, rest) => (.literal l, rest)
    | 'u' => (hexLiteral x 4 rest).map fun (l, rest) => (.literal l, rest)
    | 'U' => (hexLiteral x 8 rest).map fun (l, rest) => (.literal l, rest)
    | 'p' => property x false rest
    | 'P' => property x true rest
    | 'd' => some (.perl .digit false, rest)
    | 'D' => some (.perl .digit true, rest)
    | 's' => some (.perl .space false, rest)
    | 'S' => some (.perl .space true, rest)
    | 'w' => some (.perl .word false, rest)
    | 'W' => some (.perl .word true, rest)
    | 'A' => some (.assertion .startText, rest)
    | 'z' => some (.assertion .endText, rest)
    | 'b' => boundary x rest
    | 'B' => some (.assertion .notWord, rest)
    | '<' => some (.assertion .wordStart, rest)
    | '>' => some (.assertion .wordEnd, rest)
    | _ =>
      if isEscapable c then some (.literal ⟨c, false⟩, rest)
      else (special? c).map fun s => (.literal ⟨s, false⟩, rest)

def Primitive.toAst : Primitive → Ast
  | literal l => .literal l
  | assertion a => .assertion a
  | dot => .dot
  | perl c negated => .perl c negated
  | property q negated => .property q negated

def Primitive.toItem? : Primitive → Option ClassItem
  | literal l => some (.literal l)
  | perl c negated => some (.perl c negated)
  | property q negated => some (.property q negated)
  | assertion _ | dot => none

/-! Classes -/

def asciiClass? : String → Option AsciiClass
  | "alnum" => some .alnum
  | "alpha" => some .alpha
  | "ascii" => some .ascii
  | "blank" => some .blank
  | "cntrl" => some .cntrl
  | "digit" => some .digit
  | "graph" => some .graph
  | "lower" => some .lower
  | "print" => some .print
  | "punct" => some .punct
  | "space" => some .space
  | "upper" => some .upper
  | "word" => some .word
  | "xdigit" => some .xdigit
  | _ => none

/-- What follows a bracket inside a class, read as a named class such as `[:alpha:]`. -/
def namedClass? (text : List Char) : Option (ClassItem × List Char) :=
  match text with
  | ':' :: rest =>
    let (negated, rest) := match rest with
      | '^' :: rest => (true, rest)
      | _ => (false, rest)
    match rest.dropWhile (· ≠ ':') with
    | ':' :: ']' :: after =>
      (asciiClass? (String.ofList (rest.takeWhile (· ≠ ':')))).map fun c =>
        (.ascii c negated, after)
    | _ => none
  | _ => none

/-- The next character that counts, or the next one of all if none does. -/
def peekSpace (x : Bool) (text : List Char) : Option Char :=
  let rec find (comment : Bool) : List Char → Option Char
    | [] => none
    | c :: rest =>
      if isSpace c then find comment rest
      else if !comment && c == '#' then find true rest
      else some c
  if x then find false text <|> text.head? else text.head?

def classPrimitive (x : Bool) (text : List Char) : Option (Primitive × List Char) :=
  match text with
  | [] => none
  | '\\' :: rest => escape x rest
  | c :: rest => some (.literal ⟨c, false⟩, rest)

/-- One character, one class or a range. -/
def classItem (x : Bool) (text : List Char) : Option (ClassItem × List Char) := do
  let (first, rest) ← classPrimitive x text
  match ← skipTo x rest with
  | '-' :: after =>
    let next := peekSpace x after
    if next = some ']' ∨ next = some '-' then return (← first.toItem?, '-' :: after)
    let (last, rest) ← classPrimitive x (← skipTo x after)
    match first, last with
    | .literal a, .literal b =>
      if a.char ≤ b.char then return (.range a b, rest) else none
    | _, _ => none
  | rest => return (← first.toItem?, rest)

/-- The hyphens that open a class. -/
def leadingHyphens (x : Bool) (items : List ClassItem) (comment : Bool) :
    List Char → Option (List ClassItem × List Char)
  | [] => none
  | c :: rest =>
    if x && comment then leadingHyphens x items (c ≠ '\n') rest
    else if x && isSpace c then leadingHyphens x items false rest
    else if x && c == '#' then leadingHyphens x items true rest
    else if c = '-' then leadingHyphens x (.literal ⟨c, false⟩ :: items) false rest
    else some (items, c :: rest)

/-- What opens a class after its bracket: a caret, hyphens, or a closing bracket that is meant. -/
def classOpening (x : Bool) (text : List Char) : Option ((Bool × List ClassItem) × List Char) := do
  let text ← skipTo x text
  let (negated, text) := match text with
    | '^' :: rest => (true, rest)
    | _ => (false, text)
  let (items, text) ← leadingHyphens x [] false text
  match items, text with
  | [], ']' :: rest => return ((negated, [.literal ⟨']', false⟩]), ← skipTo x rest)
  | _, _ => return ((negated, items), text)

/-- A set whose left side is complete and waits for its right side. -/
abbrev Pending := Option (SetOp × ClassSet)

def Pending.close (p : Pending) (items : List ClassItem) : ClassSet :=
  match p with
  | none => .union items.reverse
  | some (o, left) => .op o left (.union items.reverse)

def setOp? : List Char → Option SetOp
  | '&' :: '&' :: _ => some .intersection
  | '-' :: '-' :: _ => some .difference
  | '~' :: '~' :: _ => some .symmetricDifference
  | _ => none

/-- The body of a class up to its closing bracket; `nested` reads what a bracket inside opens. -/
def classBody (x : Bool) (nested : List Char → Option (ClassItem × List Char)) (pending : Pending)
    (items : List ClassItem) (text : List Char) : Option (ClassSet × List Char) := do
  match skip x text with
  | [] => none
  | ']' :: rest => return (pending.close items, rest)
  | '[' :: rest =>
    let t ← (namedClass? rest <|> nested rest).bind (Taken.ofShorter? text)
    classBody x nested pending (t.value :: items) t.rest
  | start =>
    match setOp? start with
    | some o =>
      let t ← Taken.ofShorter? text ((), start.drop 2)
      classBody x nested (some (o, pending.close items)) [] t.rest
    | none =>
      let t ← (classItem x start).bind (Taken.ofShorter? text)
      classBody x nested pending (t.value :: items) t.rest
termination_by text.length
decreasing_by all_goals exact t.shorter

/-- What follows the opening bracket of a class. -/
def bracketed (x : Bool) : Nat → List Char → Option (ClassItem × List Char)
  | 0, _ => none
  | depth + 1, text => do
    let ((negated, items), text) ← classOpening x text
    let (set, rest) ← classBody x (bracketed x depth) none items text
    return (.bracketed negated set, rest)

/-! Repetitions -/

/-- A decimal number of 32 bits with spaces around it. -/
def decimal (x : Bool) (text : List Char) : Option (Nat × List Char) :=
  let rec digits (comment : Bool) : List Char → List Char × List Char
    | [] => ([], [])
    | c :: rest =>
      if x && comment then digits (c ≠ '\n') rest
      else if x && isSpace c then digits false rest
      else if x && c == '#' then digits true rest
      else if c.isDigit then
        let (ds, rest) := digits false rest
        (c :: ds, rest)
      else ([], c :: rest)
  let (ds, rest) := digits false (text.dropWhile isSpace)
  let n := Nat.ofDigitChars 10 ds 0
  if ds.isEmpty ∨ 2 ^ 32 ≤ n then none else some (n, skip x (rest.dropWhile isSpace))

/-- What follows the opening brace of a counted repetition: its least and its greatest count. -/
def counts (x : Bool) (text : List Char) : Option ((Nat × Option Nat) × List Char) := do
  let (low, rest) ← decimal x (← skipTo x text)
  match rest with
  | '\x7d' :: rest => return ((low, some low), rest)
  | ',' :: rest =>
    match ← skipTo x rest with
    | '\x7d' :: rest => return ((low, none), rest)
    | rest =>
      let (high, rest) ← decimal x rest
      match rest with
      | '\x7d' :: rest => if low ≤ high then return ((low, some high), rest) else none
      | _ => none
  | _ => none

def dropLazy : List Char → List Char
  | '?' :: rest => rest
  | text => text

/-- Repeats the newest of `items`, which must be an expression. -/
def repeatLast (min : Nat) (max : Option Nat) : List Ast → Option (List Ast)
  | [] | .empty :: _ | .setFlags _ :: _ => none
  | item :: older => some (.repetition min max item :: older)

/-! Groups -/

def flag? : Char → Option Flag
  | 'i' => some .caseInsensitive
  | 'm' => some .multiLine
  | 's' => some .dotNewline
  | 'U' => some .swapGreed
  | 'u' => some .unicode
  | 'R' => some .crlf
  | 'x' => some .ignoreSpace
  | _ => none

/-- Flags up to a colon or a closing parenthesis, which is left. Each letter and the minus may come
once, and the minus not last. -/
def flagChanges (on : Bool) (seen : FlagChanges) : List Char → Option (FlagChanges × List Char)
  | [] => none
  | c :: rest =>
    if c = ':' ∨ c = ')' then some (seen.reverse, c :: rest)
    else if c = '-' then
      match rest with
      | [] | ':' :: _ | ')' :: _ => none
      | _ => if on then flagChanges false seen rest else none
    else do
      let flag ← flag? c
      if seen.any (·.1 == flag) then none else flagChanges on ((flag, on) :: seen) rest

def isNameChar (first : Bool) (c : Char) : Bool :=
  if first then c == '_' || alphabetic.contains c.toNat
  else c == '_' || c == '.' || c == '[' || c == ']' || alphabetic.contains c.toNat ||
    (Category.of c).isNumber

/-- A group name up to its angle bracket. -/
def groupName (text : List Char) : Option (String × List Char) :=
  let name := text.takeWhile (· ≠ '>')
  match text.dropWhile (· ≠ '>'), name with
  | '>' :: rest, first :: others =>
    if isNameChar true first && others.all (isNameChar false) then
      some (String.ofList name, rest)
    else none
  | _, _ => none

inductive GroupStart where
  | flags (changes : FlagChanges)
  | opened (name : Option String) (changes : FlagChanges)

/-- What follows an opening parenthesis; a group that looks around is refused. -/
def groupStart (x : Bool) (text : List Char) : Option (GroupStart × List Char) :=
  match skip x text with
  | '?' :: '=' :: _ | '?' :: '!' :: _ | '?' :: '<' :: '=' :: _ | '?' :: '<' :: '!' :: _ => none
  | '?' :: 'P' :: '<' :: rest | '?' :: '<' :: rest =>
    (groupName rest).map fun (name, rest) => (.opened (some name) [], rest)
  | '?' :: rest => do
    let (changes, rest) ← flagChanges true [] rest
    match rest with
    | ')' :: rest => if changes.isEmpty then none else return (.flags changes, rest)
    | ':' :: rest => return (.opened none changes, rest)
    | _ => none
  | text => some (.opened none [], text)

def changed (changes : FlagChanges) (x : Bool) : Bool :=
  match changes.find? (·.1 == .ignoreSpace) with
  | some (_, on) => on
  | none => x

/-- Items of a branch and the branches before it, newest first, up to the end of the text or a
parenthesis that closes the group; `group` reads a group's content and its parenthesis. -/
def branches (group : Bool → List Char → Option (Ast × List Char)) (x : Bool) (done items : List Ast)
    (text : List Char) : Option (Ast × List Char) := do
  match skip x text with
  | [] => return (.ofBranches (Ast.ofConcat items.reverse :: done).reverse, [])
  | ')' :: rest => return (.ofBranches (Ast.ofConcat items.reverse :: done).reverse, ')' :: rest)
  | '|' :: rest =>
    let t ← Taken.ofShorter? text ((), rest)
    branches group x (Ast.ofConcat items.reverse :: done) [] t.rest
  | '(' :: rest =>
    let (start, rest) ← groupStart x rest
    match start with
    | .flags changes =>
      let t ← Taken.ofShorter? text ((), rest)
      branches group (changed changes x) done (.setFlags changes :: items) t.rest
    | .opened name changes =>
      let t ← (group (changed changes x) rest).bind (Taken.ofShorter? text)
      branches group x done (.group name changes t.value :: items) t.rest
  | '[' :: rest =>
    let t ← (bracketed x 251 rest).bind (Taken.ofShorter? text)
    match t.value with
    | .bracketed negated set =>
      branches group x done (.bracketed negated set :: items) t.rest
    | _ => none
  | '?' :: rest =>
    let t ← Taken.ofShorter? text (← repeatLast 0 (some 1) items, dropLazy rest)
    branches group x done t.value t.rest
  | '*' :: rest =>
    let t ← Taken.ofShorter? text (← repeatLast 0 none items, dropLazy rest)
    branches group x done t.value t.rest
  | '+' :: rest =>
    let t ← Taken.ofShorter? text (← repeatLast 1 none items, dropLazy rest)
    branches group x done t.value t.rest
  | '\x7b' :: rest =>
    let ((low, high), rest) ← counts x rest
    let t ← Taken.ofShorter? text (← repeatLast low high items, dropLazy (skip x rest))
    branches group x done t.value t.rest
  | '.' :: rest =>
    let t ← Taken.ofShorter? text ((), rest)
    branches group x done (.dot :: items) t.rest
  | '^' :: rest =>
    let t ← Taken.ofShorter? text ((), rest)
    branches group x done (.assertion .startLine :: items) t.rest
  | '$' :: rest =>
    let t ← Taken.ofShorter? text ((), rest)
    branches group x done (.assertion .endLine :: items) t.rest
  | '\\' :: rest =>
    let t ← (escape x rest).bind (Taken.ofShorter? text)
    branches group x done (t.value.toAst :: items) t.rest
  | c :: rest =>
    let t ← Taken.ofShorter? text ((), rest)
    branches group x done (.literal ⟨c, false⟩ :: items) t.rest
termination_by text.length
decreasing_by all_goals exact t.shorter

/-- The content of a group and its closing parenthesis. -/
def groupBody : Nat → Bool → List Char → Option (Ast × List Char)
  | 0, _, _ => none
  | depth + 1, x, text => do
    match ← branches (groupBody depth) x [] [] text with
    | (body, ')' :: rest) => return (body, rest)
    | _ => none

/-- Levels to which groups, classes, repetitions, branches and sequences may nest. -/
def maxDepth : Nat := 250

/-- The expression that is the whole text. -/
def parse? (x : Bool) (text : List Char) : Option Ast := do
  match ← branches (groupBody (maxDepth + 1)) x [] [] text with
  | (ast, []) => if ast.depth ≤ maxDepth ∧ ast.names.Nodup then return ast else none
  | _ => none

end PathQuery.Regex.Parser
