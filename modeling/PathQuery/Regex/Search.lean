import PathQuery.Regex.Basic
/-!
Searching a text for an expression. A set of places in the text is a natural number with one bit
per place, so an expression takes the places where it may begin to those where it may end.
-/
namespace PathQuery.Regex

/-- The characters before and after each place of a text. -/
def gaps (before : Option Char) : List Char → List (Option Char × Option Char)
  | [] => [(before, none)]
  | c :: rest => (before, some c) :: gaps (some c) rest

def mask : List Bool → Nat
  | [] => 0
  | b :: rest => 2 * mask rest + b.toNat

def isWord (unicode : Bool) (c : Option Char) : Bool :=
  match c with
  | some c => (if unicode then wordChars else asciiWord).contains c.toNat
  | none => false

def Look.holds (l : Look) (before after : Option Char) : Bool :=
  match l with
  | start => before.isNone
  | stop => after.isNone
  | lineStart false => before.all (· == '\n')
  | lineStart true => before.all fun c => c == '\n' || c == '\r' && after != some '\n'
  | lineStop false => after.all (· == '\n')
  | lineStop true => after.all fun c => c == '\r' || c == '\n' && before != some '\r'
  | word unicode a =>
    let b := isWord unicode before
    let c := isWord unicode after
    match a with
    | .word => b != c
    | .notWord => b == c
    | .wordStart => !b && c
    | .wordEnd => b && !c
    | .wordStartHalf => !b
    | .wordEndHalf => !c
    | _ => true

/-- An expression over one text: of each set of characters and each condition only the places where
it holds are left. -/
inductive Walk where
  | stay
  | never
  | char (places : Nat)
  | look (places : Nat)
  | seq (first second : Walk)
  | choice (first second : Walk)
  | repetition (min : Nat) (max : Option Nat) (body : Walk)

def onText (text : List Char) (around : List (Option Char × Option Char)) : Regex → Walk
  | empty => .stay
  | never => .never
  | set s => .char (mask (text.map fun c => s.contains c.toNat))
  | look l => .look (mask (around.map fun (before, after) => l.holds before after))
  | seq a b => .seq (onText text around a) (onText text around b)
  | choice a b => .choice (onText text around a) (onText text around b)
  | repetition min max body => .repetition min max (onText text around body)

/-- Takes `count` steps. -/
def iterate (step : Nat → Nat) : Nat → Nat → Nat
  | 0, places => places
  | count + 1, places => if places = 0 then 0 else iterate step count (step places)

/-- The places within `count` steps of those in `fresh`, and those in `seen`. -/
def within (step : Nat → Nat) : Nat → Nat → Nat → Nat
  | 0, seen, _ => seen
  | count + 1, seen, fresh =>
    if fresh = 0 then seen
    else
      let next := step fresh
      within step count (seen ||| next) (next ^^^ (next &&& seen))

/-- The places where the expression may end if it begins in one of `places`; `size` is their
number in the text. -/
def Walk.run (size : Nat) : Walk → Nat → Nat
  | stay, places => places
  | never, _ => 0
  | char m, places => (places &&& m) <<< 1
  | look m, places => places &&& m
  | seq a b, places => b.run size (a.run size places)
  | choice a b, places => a.run size places ||| b.run size places
  | repetition min max body, places =>
    let reached := iterate (body.run size) min places
    let count := match max with
      | some max => Nat.min (max - min) size
      | none => size
    within (body.run size) count reached reached

/-- Whether the expression matches some part of the text. -/
def isMatch (r : Regex) (text : String) : Bool :=
  let chars := text.toList
  let around := gaps none chars
  (onText chars around r).run around.length (2 ^ around.length - 1) != 0

/-- The compiler that the program runs with. It has no tables for the age of a character and for
where graphemes, words and sentences break, and refuses a class of these. It reports nothing. -/
instance engine : Pattern.Engine where
  compile? source options := (compile? source options).map isMatch
  report? _ _ := none

end PathQuery.Regex
