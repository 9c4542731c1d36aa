import PathQuery.Value.Basic
/-! Nodes: values with the place in the document where they were found. -/
namespace PathQuery

/-- One step into a container. -/
inductive Step where
  | item (index : Nat)
  | member (name : String)
  deriving DecidableEq, Repr

abbrev Location := List Step

structure Node where
  location : Location
  value : Value

/-- The steps into a container and what they lead to, in document order. -/
def Value.children : Value → List (Step × Value)
  | .array items => items.zipIdx.map fun (item, i) => (.item i, item)
  | .object members => members.map fun (name, value) => (.member name, value)
  | _ => []

def Step.text : Step → String
  | item index => "[" ++ index.repr ++ "]"
  | member name => "['" ++ String.ofList (name.toList.flatMap escape) ++ "']"
where
  escape : Char → List Char
    | '\'' => ['\\', '\'']
    | c => [c]

def Location.text (location : Location) : String := "$" ++ String.join (location.map Step.text)

namespace Node

def ofRoot (value : Value) : Node := ⟨[], value⟩

def path (n : Node) : String := Location.text n.location

def children (n : Node) : List Node :=
  n.value.children.map fun (step, value) => ⟨n.location ++ [step], value⟩

end Node

mutual

/-- The value at `location` and all within it, each before what it holds. -/
def Value.descend (location : Location) : Value → List Node
  | .array items => ⟨location, .array items⟩ :: descendItems location 0 items
  | .object members => ⟨location, .object members⟩ :: descendMembers location members
  | .null => [⟨location, .null⟩]
  | .bool b => [⟨location, .bool b⟩]
  | .number x => [⟨location, .number x⟩]
  | .string s => [⟨location, .string s⟩]

def descendItems (location : Location) (index : Nat) : List Value → List Node
  | [] => []
  | item :: rest =>
    item.descend (location ++ [.item index]) ++ descendItems location (index + 1) rest

def descendMembers (location : Location) : List (String × Value) → List Node
  | [] => []
  | (name, value) :: rest =>
    value.descend (location ++ [.member name]) ++ descendMembers location rest

end

end PathQuery
