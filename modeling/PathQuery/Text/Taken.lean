/-! A value read off the front of an input, with the shorter input that is left. -/
namespace PathQuery

structure Taken {τ : Type} (α : Type) (input : List τ) where
  value : α
  rest : List τ
  shorter : rest.length < input.length

namespace Taken
variable {τ α β : Type} {input : List τ}

def map (f : α → β) (t : Taken α input) : Taken β input := ⟨f t.value, t.rest, t.shorter⟩

/-- What is read from the rest of `t` is read from its input, too. -/
def after {t : List τ} (s : Taken β t) (h : t.length ≤ input.length) : Taken β input :=
  ⟨s.value, s.rest, Nat.lt_of_lt_of_le s.shorter h⟩

/-- Accepts a rest only if it is shorter than the input. -/
def ofShorter? (input : List τ) (r : α × List τ) : Option (Taken α input) :=
  if h : r.2.length < input.length then some ⟨r.1, r.2, h⟩ else none

@[simp] theorem value_map (f : α → β) (t : Taken α input) : (t.map f).value = f t.value := rfl

@[simp] theorem rest_map (f : α → β) (t : Taken α input) : (t.map f).rest = t.rest := rfl

@[simp] theorem value_after {t : List τ} (s : Taken β t) (h : t.length ≤ input.length) :
    (s.after h).value = s.value := rfl

@[simp] theorem rest_after {t : List τ} (s : Taken β t) (h : t.length ≤ input.length) :
    (s.after h).rest = s.rest := rfl

end Taken

theorem length_dropWhile_le {τ : Type} (p : τ → Bool) (l : List τ) :
    (l.dropWhile p).length ≤ l.length :=
  (List.dropWhile_sublist p).length_le

end PathQuery
