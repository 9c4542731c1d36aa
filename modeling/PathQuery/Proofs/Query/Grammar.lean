import PathQuery.Query.Parser
import PathQuery.Query.Printer

/-! The grammar of queries over the kinds of their tokens. Every symbol relates the kinds it spans
to what they mean; `n` is the number of levels that may still be opened below. -/
namespace PathQuery.Grammar
open Token
variable [Pattern.Engine]

/-- A quoted name. -/
inductive Quoted : Kind → String → Prop where
  | mk {quote : Quote} {raw name : String} (h : unescape raw = .ok name) :
      Quoted (.string quote raw) name

inductive Literal : Kind → Value → Prop where
  | string {quote : Quote} {raw s : String} (h : unescape raw = .ok s) :
      Literal (.string quote raw) (.string s)
  | int {digits : String} {x : Number} (h : Number.ofText? digits.toList = some x) :
      Literal (.int digits) (.number x)
  | float {digits : String} {x : Number} (h : Number.ofText? digits.toList = some x) :
      Literal (.float digits) (.number x)
  | true : Literal .true (.bool true)
  | false : Literal .false (.bool false)
  | null : Literal .null .null

/-- One item or more, with commas between them. -/
inductive Listed {α : Type} (Item : Kind → α → Prop) : List Kind → List α → Prop where
  | one {k : Kind} {a : α} (h : Item k a) : Listed Item [k] [a]
  | cons {k : Kind} {a : α} {ks : List Kind} {more : List α} (h : Item k a)
      (rest : Listed Item ks more) : Listed Item (k :: .comma :: ks) (a :: more)

/-- A bound of a slice: nothing, or a whole number in its only spelling. -/
def bound (b : Option Int64) : List Kind := (b.map fun i => .int (indexText i)).toList

inductive Slice : List Kind → Option Int64 → Option Int64 → Option Int64 → Prop where
  | two (start stop : Option Int64) : Slice (bound start ++ .colon :: bound stop) start stop none
  | three (start stop step : Option Int64) (h : step ≠ some 0) :
      Slice (bound start ++ .colon :: (bound stop ++ .colon :: bound step)) start stop step

/-- A call, whose function has to accept the arguments. -/
inductive Call (env : Environment) : List Kind → Segment → Prop where
  | empty {name : String} {f : Function} (h : env.resolve name [] = .ok f) :
      Call env [.function name, .openParen, .closeParen] (.function name [])
  | args {name : String} {f : Function} {ks : List Kind} {args : List Value}
      (items : Listed Literal ks args) (h : env.resolve name args = .ok f) :
      Call env (.function name :: .openParen :: (ks ++ [.closeParen])) (.function name args)

/-- A name or a star without brackets. -/
inductive Bare : Kind → Segment → Prop where
  | name (s : String) : Bare (.name s) (.field s)
  | wild : Bare .star .wild

/-- What one dot is followed by. -/
inductive Shorthand (env : Environment) : List Kind → Segment → Prop where
  | bare {k : Kind} {s : Segment} (h : Bare k s) : Shorthand env [k] s
  | call {ks : List Kind} {s : Segment} (h : Call env ks s) : Shorthand env ks s

/-- The kind of token that names a place. -/
def place : Anchor → Kind
  | .current => .current
  | .root => .root

/-- The kind of token that joins two predicates. -/
def connective : Connective → Kind
  | .and => .and
  | .or => .or

mutual

inductive Selection (env : Environment) : Nat → List Kind → Segment → Prop where
  | wild {n : Nat} : Selection env n [.openBracket, .star, .closeBracket] .wild
  | index {n : Nat} (i : Int64) :
      Selection env n [.openBracket, .int (indexText i), .closeBracket] (.index i)
  | slice {n : Nat} {ks : List Kind} {start stop step : Option Int64}
      (h : Slice ks start stop step) :
      Selection env n (.openBracket :: (ks ++ [.closeBracket])) (.slice start stop step)
  | name {n : Nat} {k : Kind} {name : String} (h : Quoted k name) :
      Selection env n [.openBracket, k, .closeBracket] (.field name)
  | names {n : Nat} {ks : List Kind} {names : List String} (h : Listed Quoted ks names)
      (several : 2 ≤ names.length) :
      Selection env n (.openBracket :: (ks ++ [.closeBracket])) (.union names)
  | call {n : Nat} {ks : List Kind} {s : Segment} (h : Call env ks s) :
      Selection env n (.openBracket :: (ks ++ [.closeBracket])) s
  | filter {n : Nat} {ks : List Kind} {p : Predicate} (h : Disjunction env n ks p) :
      Selection env (n + 1) (.openBracket :: .question :: (ks ++ [.closeBracket])) (.filter p)

/-- What two dots are followed by. -/
inductive Descendant (env : Environment) : Nat → List Kind → Segment → Prop where
  | bare {n : Nat} {k : Kind} {s : Segment} (h : Bare k s) : Descendant env n [k] s
  | selection {n : Nat} {ks : List Kind} {s : Segment} (h : Selection env n ks s) :
      Descendant env n ks s

inductive Path (env : Environment) : Nat → List Kind → List Segment → Prop where
  | nil {n : Nat} : Path env n [] []
  | descendant {n : Nat} {ks ks' : List Kind} {s : Segment} {more : List Segment}
      (h : Descendant env n ks s) (rest : Path env n ks' more) :
      Path env n (.doubleDot :: (ks ++ ks')) (.recursive :: s :: more)
  | shorthand {n : Nat} {ks ks' : List Kind} {s : Segment} {more : List Segment}
      (h : Shorthand env ks s) (rest : Path env n ks' more) :
      Path env n (.dot :: (ks ++ ks')) (s :: more)
  | selection {n : Nat} {ks ks' : List Kind} {s : Segment} {more : List Segment}
      (h : Selection env n ks s) (rest : Path env n ks' more) :
      Path env n (ks ++ ks') (s :: more)

inductive Disjunction (env : Environment) : Nat → List Kind → Predicate → Prop where
  | one {n : Nat} {ks : List Kind} {p : Predicate} (h : Conjunction env n ks p) :
      Disjunction env n ks p
  | or {n : Nat} {ks ks' : List Kind} {p q : Predicate} (left : Disjunction env n ks p)
      (right : Conjunction env n ks' q) :
      Disjunction env n (ks ++ .or :: ks') (.logical .or p q)

inductive Conjunction (env : Environment) : Nat → List Kind → Predicate → Prop where
  | one {n : Nat} {ks : List Kind} {p : Predicate} (h : Atom env n ks p) :
      Conjunction env n ks p
  | and {n : Nat} {ks ks' : List Kind} {p q : Predicate} (left : Conjunction env n ks p)
      (right : Atom env n ks' q) :
      Conjunction env n (ks ++ .and :: ks') (.logical .and p q)

inductive Atom (env : Environment) : Nat → List Kind → Predicate → Prop where
  | paren {n : Nat} {ks : List Kind} {p : Predicate} (h : Disjunction env n ks p) :
      Atom env (n + 1) (.openParen :: (ks ++ [.closeParen])) p
  | not {n : Nat} {ks : List Kind} {p : Predicate} (h : Atom env n ks p) :
      Atom env (n + 1) (.not :: ks) (.not p)
  | present {n : Nat} {ks : List Kind} {path : List Segment} (a : Anchor)
      (h : Path env n ks path) : Atom env n (place a :: ks) (.present (.mk a path))
  | compare {n : Nat} {ks : List Kind} {path : List Segment} {k : Kind} {v : Value}
      (a : Anchor) (op : Comparison) (h : Path env n ks path) (value : Literal k v) :
      Atom env n (place a :: (ks ++ [.compare op, k])) (.compare (.mk a path) op v)
  | resembles {n : Nat} {ks : List Kind} {path : List Segment} {raw flags : String}
      {pattern : Pattern} (a : Anchor) (h : Path env n ks path)
      (compiles : Pattern.ofRaw raw flags = .ok pattern) :
      Atom env n (place a :: (ks ++ [.tilde, .regex raw flags]))
        (.resembles (.mk a path) pattern)
  | flipped {n : Nat} {ks : List Kind} {path : List Segment} {k : Kind} {v : Value}
      (a : Anchor) (op : Comparison) (value : Literal k v) (h : Path env n ks path) :
      Atom env n (k :: .compare op :: place a :: ks) (.compare (.mk a path) op.flip v)

end

/-- A whole query, which opens at most 64 levels. -/
inductive Text (env : Environment) : List Kind → Query → Prop where
  | root {ks : List Kind} {segments : List Segment} (h : Path env 64 ks segments) :
      Text env (.root :: ks) ⟨segments⟩

section
variable {env : Environment} {n : Nat}

/-- Left-nested chains of operands, which `Operand` derives. -/
inductive Chained (operator : Kind) (connective : Connective)
    (Operand : List Kind → Predicate → Prop) : List Kind → Predicate → Prop where
  | one {ks : List Kind} {p : Predicate} (h : Operand ks p) :
      Chained operator connective Operand ks p
  | more {ks ks' : List Kind} {p q : Predicate}
      (left : Chained operator connective Operand ks p) (right : Operand ks' q) :
      Chained operator connective Operand (ks ++ operator :: ks') (.logical connective p q)

theorem conjunction_of_chained {ks : List Kind} {p : Predicate}
    (h : Chained .and .and (Atom env n) ks p) : Conjunction env n ks p := by
  induction h with
  | one h => exact .one h
  | more _ right ih => exact .and ih right

theorem disjunction_of_chained {ks : List Kind} {p : Predicate}
    (h : Chained .or .or (Conjunction env n) ks p) : Disjunction env n ks p := by
  induction h with
  | one h => exact .one h
  | more _ right ih => exact .or ih right

theorem chained_of_conjunction {ks : List Kind} {p : Predicate} :
    Conjunction env n ks p → Chained .and .and (Atom env n) ks p
  | .one h => .one h
  | .and left right => .more (chained_of_conjunction left) right

theorem chained_of_disjunction {ks : List Kind} {p : Predicate} :
    Disjunction env n ks p → Chained .or .or (Conjunction env n) ks p
  | .one h => .one h
  | .or left right => .more (chained_of_disjunction left) right

end

end PathQuery.Grammar
