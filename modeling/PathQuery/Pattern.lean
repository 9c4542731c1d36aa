/-! Patterns: expressions that compile, told apart by their source and flags. -/
namespace PathQuery
namespace Pattern

/-- What the letters of a pattern's flags turn on; other letters mean nothing. -/
structure Options where
  caseInsensitive : Bool
  multiLine : Bool
  dotNewline : Bool
  ignoreSpace : Bool

def Options.ofFlags (flags : String) : Options :=
  let on (letter : Char) : Bool := flags.toList.contains letter
  ⟨on 'i', on 'm', on 's', on 'x'⟩

/-- A compiler of regular expressions. What is proved of queries holds with any. -/
class Engine where
  /-- The search for a source in texts, if the source compiles. -/
  compile? (source : String) (options : Options) : Option (String → Bool)
  /-- What there is to report of a source that does not. -/
  report? (source : String) (options : Options) : Option String

end Pattern

variable [Pattern.Engine]

structure Pattern where
  source : String
  flags : String
  search : String → Bool
  compiled : Pattern.Engine.compile? source (.ofFlags flags) = some search

namespace Pattern

def of? (source flags : String) : Option Pattern :=
  match h : Engine.compile? source (.ofFlags flags) with
  | some search => some ⟨source, flags, search, h⟩
  | none => none

def isMatch (p : Pattern) (text : String) : Bool := p.search text

/-- Escapes the slashes of a source. -/
def escapeSlash : Char → List Char
  | '/' => ['\\', '/']
  | c => [c]

def text (p : Pattern) : String :=
  "/" ++ String.ofList (p.source.toList.flatMap escapeSlash) ++ "/" ++ p.flags

theorem ext {p q : Pattern} (source : p.source = q.source) (flags : p.flags = q.flags) :
    p = q := by
  obtain ⟨s, f, r, h⟩ := p
  obtain ⟨t, g, u, k⟩ := q
  simp only at source flags
  subst source flags
  rw [h] at k
  cases k
  rfl

theorem of?_source (p : Pattern) : of? p.source p.flags = some p := by
  unfold of?
  split
  next search h => exact congrArg some (ext rfl rfl)
  next h => exact absurd (h.symm.trans p.compiled) (by simp)

theorem of?_eq_none_iff {source flags : String} :
    of? source flags = none ↔ Engine.compile? source (.ofFlags flags) = none := by
  unfold of?
  split
  next search h => simp [h]
  next h => simp [h]

instance : DecidableEq Pattern := fun p q =>
  decidable_of_iff (p.source = q.source ∧ p.flags = q.flags)
    ⟨fun h => ext h.1 h.2, fun h => h ▸ ⟨rfl, rfl⟩⟩

end Pattern
end PathQuery
