import PathQuery.Function.Standard
import PathQuery.Members
/-! Environments: the functions that queries may call, by name. -/
namespace PathQuery

structure Environment where
  functions : Members Function

/-- Why a call is refused. -/
inductive CallError where
  | unknown (name : String)
  | arguments (name : String) (cause : ArgumentError)

def CallError.message : CallError → String
  | unknown name => "unknown function '" ++ name ++ "'"
  | arguments name cause => cause.message name

namespace Environment

def empty : Environment := ⟨[]⟩

def get? (env : Environment) (name : String) : Option Function := env.functions.get? name

def insert (env : Environment) (name : String) (f : Function) : Environment :=
  ⟨env.functions.insert name f⟩

def erase (env : Environment) (name : String) : Environment := ⟨env.functions.erase name⟩

/-- Names in ascending order. -/
def names (env : Environment) : List String := env.functions.names.mergeSort

def standard : Environment := ⟨[
  ("length", .length), ("substring", .substring), ("charAt", .charAt),
  ("keys", .keys), ("values", .values), ("entries", .entries)]⟩

/-- The function that a call names, if it accepts the arguments. -/
def resolve (env : Environment) (name : String) (args : List Value) :
    Except CallError Function :=
  match env.get? name with
  | none => .error (.unknown name)
  | some f =>
    match f.signature.check args with
    | some cause => .error (.arguments name cause)
    | none => .ok f

end Environment
end PathQuery
