import PathQuery.Pattern
import PathQuery.Regex.CharSet
import PathQuery.Regex.Parser
/-!
Regular expressions with their flags worked in: what is left are sets of characters, conditions
on places, sequences, choices and repetitions.
-/
namespace PathQuery

/-- A condition on the characters before and after a place. -/
inductive Regex.Look where
  | start | stop
  | lineStart (crlf : Bool) | lineStop (crlf : Bool)
  | word (unicode : Bool) (a : Regex.Assertion)

inductive Regex where
  | empty
  | set (s : Regex.CharSet)
  | look (l : Regex.Look)
  | seq (first second : Regex)
  | choice (first second : Regex)
  | repetition (min : Nat) (max : Option Nat) (body : Regex)
  | never
  deriving Inhabited

namespace Regex

structure Flags where
  caseInsensitive : Bool := false
  multiLine : Bool := false
  dotNewline : Bool := false
  unicode : Bool := true
  crlf : Bool := false

namespace Flags

def set (f : Flags) : Flag × Bool → Flags
  | (.caseInsensitive, on) => { f with caseInsensitive := on }
  | (.multiLine, on) => { f with multiLine := on }
  | (.dotNewline, on) => { f with dotNewline := on }
  | (.unicode, on) => { f with unicode := on }
  | (.crlf, on) => { f with crlf := on }
  | (.swapGreed, _) | (.ignoreSpace, _) => f

def change (f : Flags) (changes : FlagChanges) : Flags := changes.foldl set f

/-- Adds the other cases of the members, if case does not count. -/
def fold (f : Flags) (s : CharSet) : CharSet :=
  if f.caseInsensitive then if f.unicode then .folded s else .asciiFolded s else s

/-- Folds and complements. A class of bytes has no complement, which would not be text. -/
def finish? (f : Flags) (negated : Bool) (s : CharSet) : Option CharSet :=
  if negated then if f.unicode then some (.complement (f.fold s)) else none
  else some (f.fold s)

def literal? (f : Flags) (l : Literal) : Option Char :=
  if !f.unicode && l.isByte && 0x80 ≤ l.char.toNat then none else some l.char

/-- A literal of a class, which outside Unicode has to be ASCII. -/
def member? (f : Flags) (l : Literal) : Option Nat :=
  if !f.unicode && 0x80 ≤ l.char.toNat then none else some l.char.toNat

def perl? (f : Flags) (c : PerlClass) (negated : Bool) : Option CharSet :=
  if f.unicode then
    some (if negated then .complement (.ranges c.ranges) else .ranges c.ranges)
  else if negated then none
  else some (.ranges c.asciiRanges)

def property? (f : Flags) (q : PropertyQuery) (negated : Bool) : Option CharSet := do
  guard f.unicode
  f.finish? negated (.ranges (← q.ranges?))

mutual

def item? (f : Flags) : ClassItem → Option CharSet
  | .literal l => do
    let code ← f.member? l
    return .ranges [(code, code)]
  | .range first last => return .ranges [(← f.member? first, ← f.member? last)]
  | .perl c negated => f.perl? c negated
  | .ascii c negated => f.finish? negated (.ranges c.ranges)
  | .property q negated => f.property? q negated
  | .bracketed negated set => do f.finish? negated (← set? f set)

def set? (f : Flags) : ClassSet → Option CharSet
  | .union items => (items? f items).map .union
  | .op o left right => return .op o (f.fold (← set? f left)) (f.fold (← set? f right))

def items? (f : Flags) : List ClassItem → Option (List CharSet)
  | [] => some []
  | item :: rest => return (← item? f item) :: (← items? f rest)

end

def look (f : Flags) : Assertion → Look
  | .startLine => if f.multiLine then .lineStart f.crlf else .start
  | .endLine => if f.multiLine then .lineStop f.crlf else .stop
  | .startText => .start
  | .endText => .stop
  | a => .word f.unicode a

/-- Any character, without the ends of lines unless the flags allow them. -/
def dot? (f : Flags) : Option CharSet :=
  if !f.unicode then none
  else if f.dotNewline then some (.complement (.ranges []))
  else if f.crlf then some (.complement (.ranges [(10, 10), (13, 13)]))
  else some (.complement (.ranges [(10, 10)]))

end Flags

/-- A repetition of what takes no characters happens once at most. -/
def maxLength : Regex → Option Nat
  | empty | look _ => some 0
  | set _ => some 1
  | never => none
  | seq a b => return (← a.maxLength) + (← b.maxLength)
  | choice a b => return max (← a.maxLength) (← b.maxLength)
  | repetition _ max body => do
    let length ← body.maxLength
    if length = 0 then some 0 else return length * (← max)

def ofRepetition (min : Nat) (max : Option Nat) (body : Regex) : Regex :=
  let (min, max) :=
    if body.maxLength = some 0 then (Nat.min min 1, some (Nat.min (max.getD 1) 1)) else (min, max)
  match min, max with
  | 0, some 0 => empty
  | 1, some 1 => body
  | min, max => repetition min max body

mutual

/-- Works the flags into an expression; those that it sets hold for what follows it. -/
def ofAst? (f : Flags) : Ast → Option (Regex × Flags)
  | .empty => some (empty, f)
  | .setFlags changes => some (empty, f.change changes)
  | .literal l => do return (set (f.fold (.single (← f.literal? l))), f)
  | .dot => do return (set (← f.dot?), f)
  | .assertion a => some (look (f.look a), f)
  | .perl c negated => do return (set (← f.perl? c negated), f)
  | .property q negated => do return (set (← f.property? q negated), f)
  | .bracketed negated s => do return (set (← f.finish? negated (← f.set? s)), f)
  | .repetition min max body => do
    let (r, f) ← ofAst? f body
    return (ofRepetition min max r, f)
  | .group _ changes body => do
    let (r, _) ← ofAst? (f.change changes) body
    return (r, f)
  | .concat items => ofSequence? f items
  | .alternation branches => ofChoice? f branches

def ofSequence? (f : Flags) : List Ast → Option (Regex × Flags)
  | [] => some (empty, f)
  | item :: rest => do
    let (a, f) ← ofAst? f item
    let (b, f) ← ofSequence? f rest
    return (seq a b, f)

def ofChoice? (f : Flags) : List Ast → Option (Regex × Flags)
  | [] => some (never, f)
  | branch :: rest => do
    let (a, f) ← ofAst? f branch
    let (b, f) ← ofChoice? f rest
    return (choice a b, f)

end

/-- Bytes that one state of an automaton takes. -/
def stateSize : Nat := 32

def CharSet.weight (s : CharSet) : Nat :=
  match s with
  | .ranges [(first, last)] =>
    if first = last then stateSize * (Char.ofNat first).utf8Size else general
  | _ => general
where
  general :=
    if s.isAscii then 2 * stateSize + 8 * s.count else stateSize * (s.count + s.count / 2 + 10)

/-- About how many bytes an automaton for the expression takes, repetitions written out. -/
def weight : Regex → Nat
  | empty | look _ | never => stateSize
  | set s => s.weight
  | seq a b => a.weight + b.weight
  | choice a b => a.weight + b.weight + stateSize
  | repetition min none body => Nat.max min 1 * body.weight + 2 * stateSize
  | repetition min (some max) body =>
    max * body.weight + (max - min) * stateSize + stateSize

/-- Expressions that weigh more than this many bytes are refused. -/
def maxWeight : Nat := 10 * 2 ^ 20

/-- The expression that a source stands for. -/
def compile? (source : String) (options : Pattern.Options) : Option Regex := do
  let ast ← Parser.parse? options.ignoreSpace source.toList
  let start : Flags :=
    { caseInsensitive := options.caseInsensitive, multiLine := options.multiLine,
      dotNewline := options.dotNewline }
  let (r, _) ← ofAst? start ast
  if r.weight ≤ maxWeight then return r else none

end Regex
end PathQuery
