/-! Named entries in the order in which their names first came. -/
namespace PathQuery

/-- A list read as a map: the first entry of a name is the one that counts. -/
abbrev Members (α : Type) := List (String × α)

namespace Members
variable {α : Type}

def get? (m : Members α) (name : String) : Option α :=
  match m with
  | [] => none
  | entry :: rest => if entry.1 = name then some entry.2 else get? rest name

/-- Replaces the entry of `name` where it stands, or adds one at the end. -/
def insert (m : Members α) (name : String) (value : α) : Members α :=
  match m with
  | [] => [(name, value)]
  | entry :: rest =>
    if entry.1 = name then (name, value) :: rest else entry :: insert rest name value

def erase (m : Members α) (name : String) : Members α := m.filter (·.1 ≠ name)

def ofList (entries : List (String × α)) : Members α :=
  entries.foldl (fun m entry => m.insert entry.1 entry.2) []

def names (m : Members α) : List String := m.map (·.1)

theorem get?_insert (m : Members α) (name other : String) (value : α) :
    (m.insert name value).get? other = if other = name then some value else m.get? other := by
  induction m with
  | nil => grind [insert, get?]
  | cons entry rest ih => grind [insert, get?]

theorem get?_erase (m : Members α) (name other : String) :
    (m.erase name).get? other = if other = name then none else m.get? other := by
  induction m with
  | nil => simp [erase, get?]
  | cons entry rest ih => grind [erase, get?]

theorem names_insert_of_mem {m : Members α} {name : String} (value : α) (h : name ∈ m.names) :
    (m.insert name value).names = m.names := by
  induction m with
  | nil => simp [names] at h
  | cons entry rest ih =>
    by_cases hk : entry.1 = name
    · simp [insert, names, hk]
    · have hr : name ∈ names rest := by
        rcases List.mem_cons.1 h with h | h
        · exact absurd h.symm hk
        · exact h
      simpa [insert, names, hk] using ih hr

theorem mem_of_get? {m : Members α} {name : String} {a : α} (h : m.get? name = some a) :
    (name, a) ∈ m := by
  induction m with
  | nil => simp [get?] at h
  | cons entry rest ih =>
    rw [get?] at h
    split at h
    next hname =>
      cases h
      simp [← hname]
    · exact List.mem_cons_of_mem _ (ih h)

end Members
end PathQuery
