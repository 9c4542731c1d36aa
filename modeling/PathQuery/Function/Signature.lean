import PathQuery.Value.Basic
/-! Signatures of functions, and what is wrong with arguments that they refuse. -/
namespace PathQuery

inductive ParamType where
  | int | number | string | value
  deriving DecidableEq, Repr

namespace ParamType

def accepts : ParamType → Value → Bool
  | int, .number x => x.isWhole
  | number, .number _ => true
  | string, .string _ => true
  | value, _ => true
  | _, _ => false

def name : ParamType → String
  | int => "Int"
  | number => "Number"
  | string => "String"
  | value => "Value"

/-- What an argument has to be, with the article. -/
def noun : ParamType → String
  | int => "an integer"
  | number => "a number"
  | string => "a string"
  | value => "a value"

end ParamType

/-- Parameter types, of which those after the first `required` may be left out. -/
structure Signature where
  params : List ParamType
  required : Nat
  deriving DecidableEq, Repr

/-- What is wrong with the arguments of a call. -/
inductive ArgumentError where
  | count (required max given : Nat)
  | type (index : Nat) (expected : ParamType) (found : Value)

namespace ArgumentError

def plural (n : Nat) : String := if n = 1 then "" else "s"

def message (name : String) : ArgumentError → String
  | count required max given =>
    let expected :=
      if required = max then max.repr ++ " argument" ++ plural max
      else required.repr ++ " to " ++ max.repr ++ " arguments"
    name ++ "() takes " ++ expected ++ " but " ++ given.repr ++
      (if given = 1 then " was given" else " were given")
  | type index expected found =>
    "argument " ++ (index + 1).repr ++ " of " ++ name ++ "() must be " ++ expected.noun ++
      ", found " ++ found.text

end ArgumentError

namespace Signature

def ofParams (params : List ParamType) : Signature := ⟨params, params.length⟩

/-- The first argument that its parameter does not accept; `index` counts from the first. -/
def mismatch? (index : Nat) : List ParamType → List Value → Option ArgumentError
  | type :: types, arg :: args =>
    if type.accepts arg then mismatch? (index + 1) types args else some (.type index type arg)
  | _, _ => none

def check (s : Signature) (args : List Value) : Option ArgumentError :=
  if args.length < s.required ∨ s.params.length < args.length then
    some (.count s.required s.params.length args.length)
  else mismatch? 0 s.params args

def accepts (s : Signature) (args : List Value) : Bool := (s.check args).isNone

def text (s : Signature) : String :=
  "([" ++ ", ".intercalate (s.params.map ParamType.name) ++ "], required: " ++ s.required.repr ++ ")"

end Signature
end PathQuery
