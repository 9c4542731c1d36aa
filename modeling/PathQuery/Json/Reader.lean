import PathQuery.Json.Basic
import PathQuery.Text.Escape
import PathQuery.Text.Taken
/-! Reading a JSON document whose arrays and objects nest to a bounded depth. -/
namespace PathQuery.Json

def isBlank (c : Char) : Bool := c == ' ' || c == '\n' || c == '\r' || c == '\t'

def skipBlank (text : List Char) : List Char := text.dropWhile isBlank

theorem length_skipBlank (text : List Char) : (skipBlank text).length ≤ text.length :=
  length_dropWhile_le isBlank text

/-- Takes digits into `count` while it stays below 2⁶⁴, and tells how many it took. -/
def gather (count : Nat) : List Char → Nat × Nat
  | [] => (count, 0)
  | digit :: rest =>
    let next := count * 10 + (digit.toNat - '0'.toNat)
    if next < 2 ^ 64 then
      let (total, taken) := gather next rest
      (total, taken + 1)
    else (count, 0)

def tenPow (e : Nat) : Number := Decimal.toNumber ⟨false, 1, e⟩

/-- Divides by a power of ten, 10³⁰⁸ at a time. -/
def scaleDown (x : Number) (e : Nat) : Number :=
  if e ≤ 308 ∨ x.position = 0 then x.div (tenPow (min e 308))
  else scaleDown (x.div (tenPow 308)) (e - 308)
termination_by e

/-- The product of `x` and `10 ^ e` with a rounding at each step; out of range it is refused. -/
def scale? (x : Number) (e : Int) : Option Number :=
  if 0 ≤ e then
    if e ≤ 308 then some (x.mul (tenPow e.toNat))
    else if x.position = 0 then some x else none
  else some (scaleDown x (-e).toNat)

/-- A numeral is gathered into one whole number, which is then scaled by powers of ten. -/
def Num.ofGathered? (n : Numeral) : Option Num := do
  let (upper, taken) := gather 0 n.whole
  let (count, places) := gather upper (n.fraction.getD [])
  let e := (n.whole.length - taken : Nat) - (places : Int) + n.exponent.getD 0
  let x ← scale? (.ofNat count) e
  let x := if n.negative then x.neg else x
  if h : x.isFinite then some (.real x h) else none

/-- Leading zeros are refused. Zero with a sign is no whole number, since it would lose it. -/
def Num.ofNumeral? (n : Numeral) : Option Num :=
  if n.whole.length ≠ 1 ∧ n.whole.head? = some '0' then none
  else if n.fraction.isSome ∨ n.exponent.isSome then ofGathered? n
  else
    let size := Nat.ofDigitChars 10 n.whole 0
    if h : size < 2 ^ 64 ∧ ¬ n.negative then some (.whole size (by omega))
    else if h : 0 < size ∧ size ≤ 2 ^ 63 then some (.whole (-size) (by omega))
    else if size < 2 ^ 64 then
      let x := (Number.ofNat size).neg
      if h : x.isFinite then some (.real x h) else none
    else ofGathered? n

/-- Splits at the first quote that no backslash precedes. -/
def untilQuote? : List Char → Option (List Char × List Char)
  | [] => none
  | '"' :: rest => some ([], rest)
  | '\\' :: c :: rest => (untilQuote? rest).map fun (body, rest) => ('\\' :: c :: body, rest)
  | c :: rest => (untilQuote? rest).map fun (body, rest) => (c :: body, rest)

/-- Reads the rest of a string that a quote has opened. -/
def string? (text : List Char) : Option (String × List Char) := do
  let (body, rest) ← untilQuote? text
  guard (body.all (' ' ≤ ·))
  return (String.ofList (← Escape.decode? false body), rest)

/-- Reads a word that stands for `value`. -/
def word? (word : String) (value : Json) (text : List Char) : Option (Json × List Char) :=
  if word.toList.isPrefixOf text then some (value, text.drop word.length) else none

/-- Reads a number. -/
def numeral? (text : List Char) : Option (Json × List Char) := do
  let (numeral, rest) ← Numeral.read? text
  return (.num (← Num.ofNumeral? numeral), rest)

/-- Reads a value that holds no other. -/
def scalar? (text : List Char) : Option (Json × List Char) :=
  match text with
  | [] => none
  | '"' :: rest => (string? rest).map fun (s, rest) => (.string s, rest)
  | 'n' :: _ => word? "null" .null text
  | 't' :: _ => word? "true" (.bool true) text
  | 'f' :: _ => word? "false" (.bool false) text
  | _ => numeral? text

theorem shorter_of_untilQuote? {text body rest : List Char}
    (h : untilQuote? text = some (body, rest)) : rest.length < text.length := by
  fun_induction untilQuote? text generalizing body with
  | case1 => simp at h
  | case2 => simp_all
  | case3 c r ih =>
    obtain ⟨⟨b, r'⟩, hr, he⟩ := Option.map_eq_some_iff.1 h
    simp only [Prod.mk.injEq] at he
    obtain ⟨-, rfl⟩ := he
    have := ih hr
    simp
    omega
  | case4 c r _ _ ih =>
    obtain ⟨⟨b, r'⟩, hr, he⟩ := Option.map_eq_some_iff.1 h
    simp only [Prod.mk.injEq] at he
    obtain ⟨-, rfl⟩ := he
    have := ih hr
    simp
    omega

theorem shorter_of_string? {text rest : List Char} {s : String}
    (h : string? text = some (s, rest)) : rest.length < text.length := by
  unfold string? at h
  obtain ⟨⟨body, r⟩, hu, h⟩ := Option.bind_eq_some_iff.1 h
  obtain ⟨_, -, h⟩ := Option.bind_eq_some_iff.1 h
  obtain ⟨_, -, h⟩ := Option.bind_eq_some_iff.1 h
  cases h
  exact shorter_of_untilQuote? hu

theorem shorter_of_word? {word : String} {value v : Json} {c : Char} {text rest : List Char}
    (hw : 0 < word.length) (h : word? word value (c :: text) = some (v, rest)) :
    rest.length < (c :: text).length := by
  unfold word? at h
  split at h
  · simp only [Option.some.injEq, Prod.mk.injEq] at h
    obtain ⟨-, rfl⟩ := h
    simp
    omega
  · simp at h

theorem shorter_of_numeral? {text rest : List Char} {v : Json}
    (h : numeral? text = some (v, rest)) : rest.length < text.length := by
  simp only [numeral?, Option.bind_eq_bind, Option.bind_eq_some_iff] at h
  obtain ⟨⟨n, r⟩, hr, num, -, h⟩ := h
  simp only [Option.pure_def, Option.some.injEq, Prod.mk.injEq] at h
  obtain ⟨-, rfl⟩ := h
  exact Numeral.shorter_of_read? hr

theorem shorter_of_scalar? {text rest : List Char} {v : Json}
    (h : scalar? text = some (v, rest)) : rest.length < text.length := by
  unfold scalar? at h
  split at h
  · simp at h
  · obtain ⟨⟨s, r⟩, hs, he⟩ := Option.map_eq_some_iff.1 h
    simp only [Prod.mk.injEq] at he
    obtain ⟨-, rfl⟩ := he
    have := shorter_of_string? hs
    simp
    omega
  · exact shorter_of_word? (by decide) h
  · exact shorter_of_word? (by decide) h
  · exact shorter_of_word? (by decide) h
  · exact shorter_of_numeral? h

theorem length_of_skipBlank {text rest : List Char} {c : Char} (h : skipBlank text = c :: rest) :
    rest.length < text.length := by
  have := length_skipBlank text
  simp [h] at this
  omega

/-- Reads a value off the front of a text. -/
abbrev Reader := (text : List Char) → Option (Taken Json text)

/-- Items up to the closing bracket, one at least. -/
def items? (value : Reader) (text : List Char) : Option (Taken (List Json) text) := do
  let item ← value text
  have := item.shorter
  match h : skipBlank item.rest with
  | ']' :: rest => some ⟨[item.value], rest, by have := length_of_skipBlank h; omega⟩
  | ',' :: rest =>
    have : rest.length < text.length := by have := length_of_skipBlank h; omega
    let more ← items? value rest
    some ((more.map (item.value :: ·)).after (Nat.le_of_lt this))
  | _ => none
termination_by text.length

/-- A member's name and the colon after it. -/
def name? (text : List Char) : Option (Taken String text) :=
  match h : skipBlank text with
  | '"' :: body =>
    match hs : string? body with
    | some (name, rest) =>
      match hc : skipBlank rest with
      | ':' :: after => some ⟨name, after, by
          have := length_of_skipBlank h
          have := shorter_of_string? hs
          have := length_of_skipBlank hc
          omega⟩
      | _ => none
    | none => none
  | _ => none

/-- Members up to the closing brace, one at least. -/
def members? (value : Reader) (text : List Char) :
    Option (Taken (List (String × Json)) text) := do
  let name ← name? text
  have := name.shorter
  let item ← value name.rest
  have := item.shorter
  match h : skipBlank item.rest with
  | '\x7d' :: rest =>
    some ⟨[(name.value, item.value)], rest, by have := length_of_skipBlank h; omega⟩
  | ',' :: rest =>
    have : rest.length < text.length := by have := length_of_skipBlank h; omega
    let more ← members? value rest
    some ((more.map ((name.value, item.value) :: ·)).after (Nat.le_of_lt this))
  | _ => none
termination_by text.length

/-- What follows the bracket that opens an array. -/
def array? (value : Reader) (text : List Char) : Option (Taken (List Json) text) :=
  match h : skipBlank text with
  | ']' :: rest => some ⟨[], rest, length_of_skipBlank h⟩
  | _ => items? value text

/-- What follows the brace that opens an object. -/
def object? (value : Reader) (text : List Char) : Option (Taken (List (String × Json)) text) :=
  match h : skipBlank text with
  | '\x7d' :: rest => some ⟨[], rest, length_of_skipBlank h⟩
  | _ => members? value text

/-- Reads one value, whose arrays and objects may hold what `inner` reads. -/
def valueWith? (inner : Option Reader) (text : List Char) : Option (Taken Json text) :=
  match h : skipBlank text with
  | '[' :: body => do
    let items ← array? (← inner) body
    some ((items.map .array).after (Nat.le_of_lt (length_of_skipBlank h)))
  | '\x7b' :: body => do
    let members ← object? (← inner) body
    some ((members.map fun ms => .object (Members.ofList ms)).after
      (Nat.le_of_lt (length_of_skipBlank h)))
  | start =>
    match hs : scalar? start with
    | some (v, rest) => some ⟨v, rest, by
        have := shorter_of_scalar? hs
        have := length_skipBlank text
        simp_all
        omega⟩
    | none => none

/-- Reads one value, of which arrays and objects nest at most `depth` levels. -/
def value? : Nat → Reader
  | 0 => valueWith? none
  | depth + 1 => valueWith? (some (value? depth))

/-- The levels to which the arrays and objects of a document may nest. -/
def maxDepth : Nat := 127

/-- Reads a text that holds one value and nothing else. -/
def ofText? (text : String) (depth : Nat := maxDepth) : Option Json := do
  let t ← value? depth text.toList
  guard (skipBlank t.rest).isEmpty
  return t.value

end PathQuery.Json
