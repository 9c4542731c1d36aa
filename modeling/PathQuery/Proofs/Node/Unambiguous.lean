import PathQuery.Proofs.Node.Misread

/-! Paths tell locations apart. A name may end in a backslash, which then seems to escape the quote
behind it. But whoever reads on from there is inside of a name wherever the path is outside of one,
and outside where it is inside, up to the end of the text; and there a path is outside. -/
namespace PathQuery

section
variable {cs ds rest text : List Char} {l l' : Location}

/-- No spelling of a name begins with a quote. -/
theorem pathName_cons_ne_quote (c : Char) (cs rest text : List Char) :
    pathName (c :: cs) ++ rest ≠ '\'' :: text := by
  by_cases hc : c = '\''
  · subst hc
    simp
  · rw [pathName_cons hc]
    intro h
    exact hc (List.cons.inj h).1

/-- A name whose first character is taken for the bracket behind a closing quote leaves the rest of
it inside of what seems to be steps. -/
theorem inverted_of_closeBracket
    (h : pathName cs ++ '\'' :: ']' :: stepsText l = ']' :: stepsText l') :
    Inverted (stepsText l') := by
  cases cs with
  | nil => simp [pathName] at h
  | cons c cs =>
    by_cases hc : c = '\''
    · subst hc
      simp at h
    · rw [pathName_cons hc] at h
      obtain ⟨-, h⟩ := List.cons.inj h
      exact ⟨pathName cs, l, escaped_pathName cs, h.symm⟩

/-- The steps of a path are not at the same time inside out. -/
theorem not_inverted_stepsText (l : Location) : ¬ Inverted (stepsText l) := by
  -- In front of a name the two readings change places, and the text that is left is shorter.
  induction hn : (stepsText l).length using Nat.strong_induction_on generalizing l with
  | _ n ih =>
    intro h
    cases l with
    | nil =>
      obtain ⟨inside, l', -, htext⟩ := h
      simp [stepsText] at htext
    | cons s l =>
      cases s with
      | item i =>
        have digits : Plain i.repr.toList :=
          .of_all (by decide) (by decide) (Inverted.isDigit_repr i)
        have index : Plain ('[' :: (i.repr.toList ++ [']'])) :=
          .cons (by decide) (digits.append (by simp [Plain]))
        have htext : stepsText (.item i :: l) =
            ('[' :: (i.repr.toList ++ [']'])) ++ stepsText l := by simp
        rw [htext] at h hn
        have hl := h.drop (n := ('[' :: (i.repr.toList ++ [']'])).length) (by
          rw [List.take_left]
          exact index)
        rw [List.drop_left] at hl
        rw [List.length_append, List.length_cons] at hn
        exact ih _ (by omega) l rfl hl
      | member name =>
        rw [stepsText_member] at h hn
        obtain ⟨inside, l', he, htext⟩ := h.drop (n := 1) (by simp [Plain])
        cases he with
        | nil =>
          obtain ⟨-, htext⟩ := List.cons.inj htext
          have hlength := congrArg List.length htext
          simp only [List.length_cons] at hn hlength
          exact ih _ (by omega) l' rfl (inverted_of_closeBracket htext)
        | pair => simp at htext
        | other hc => exact hc (List.cons.inj htext).1.symm

/-- So no closing quote is taken for a quote of the name in front of it. -/
theorem quote_ne_pathName (cs ds : List Char) (l l' : Location) :
    '\'' :: (pathName cs ++ '\'' :: ']' :: stepsText l) ≠
      pathName ds ++ '\'' :: ']' :: stepsText l' := by
  intro h
  cases ds with
  | nil =>
    obtain ⟨-, h⟩ := List.cons.inj h
    exact not_inverted_stepsText l' (inverted_of_closeBracket h)
  | cons d ds => exact pathName_cons_ne_quote d ds _ _ h.symm

/-- In front of the steps of a path, a spelled name and its closing quote can be told apart. -/
theorem pathName_append_inj
    (h : pathName cs ++ '\'' :: ']' :: stepsText l =
      pathName ds ++ '\'' :: ']' :: stepsText l') :
    cs = ds ∧ stepsText l = stepsText l' := by
  induction cs generalizing ds with
  | nil =>
    cases ds with
    | nil => simpa [pathName] using h
    | cons d ds => exact absurd h.symm (pathName_cons_ne_quote d ds _ _)
  | cons c cs ih =>
    cases ds with
    | nil => exact absurd h (pathName_cons_ne_quote c cs _ _)
    | cons d ds =>
      by_cases hc : c = '\''
      · subst hc
        by_cases hd : d = '\''
        · subst hd
          have hrest := (List.cons.inj (List.cons.inj h).2).2
          obtain ⟨rfl, hl⟩ := ih hrest
          exact ⟨rfl, hl⟩
        · rw [pathName_cons hd] at h
          exact absurd (List.cons.inj h).2 (quote_ne_pathName cs ds l l')
      · rw [pathName_cons hc] at h
        by_cases hd : d = '\''
        · subst hd
          exact absurd (List.cons.inj h).2.symm (quote_ne_pathName ds cs l' l)
        · rw [pathName_cons hd] at h
          obtain ⟨rfl, hrest⟩ := List.cons.inj h
          obtain ⟨rfl, hl⟩ := ih hrest
          exact ⟨rfl, hl⟩

theorem repr_append_inj {i j : Nat}
    (h : i.repr.toList ++ ']' :: text = j.repr.toList ++ ']' :: rest) : i = j ∧ text = rest := by
  have digits (k : Nat) (more : List Char) :
      (k.repr.toList ++ ']' :: more).takeWhile Char.isDigit = k.repr.toList := by
    rw [List.takeWhile_append_of_pos (Inverted.isDigit_repr k),
      List.takeWhile_cons_of_neg (by decide), List.append_nil]
  have value (k : Nat) : Nat.ofDigitChars 10 k.repr.toList 0 = k := by
    rw [Nat.toList_repr, Nat.ofDigitChars_toDigits (by decide) (by decide)]
  have hrepr : i.repr.toList = j.repr.toList := by rw [← digits i text, h, digits]
  rw [hrepr] at h
  have hrest := List.append_cancel_left h
  refine ⟨?_, (List.cons.inj hrest).2⟩
  rw [← value i, hrepr, value]

theorem repr_append_ne_quote (i : Nat) : i.repr.toList ++ ']' :: rest ≠ '\'' :: text := by
  intro h
  cases hi : i.repr.toList with
  | nil => simp [hi] at h
  | cons d ds =>
    have digit := Inverted.isDigit_repr i d (by simp [hi])
    rw [hi] at h
    rw [(List.cons.inj h).1] at digit
    exact absurd digit (by decide)

theorem stepsText_inj (h : stepsText l = stepsText l') : l = l' := by
  induction l generalizing l' with
  | nil =>
    cases l' with
    | nil => rfl
    | cons s l' => cases s <;> simp [stepsText, Step.text] at h
  | cons s l ih =>
    cases l' with
    | nil => cases s <;> simp [stepsText, Step.text] at h
    | cons t l' =>
      cases s with
      | item i =>
        cases t with
        | item j =>
          rw [stepsText_item, stepsText_item] at h
          obtain ⟨rfl, hl⟩ := repr_append_inj (List.cons.inj h).2
          rw [ih hl]
        | member name =>
          rw [stepsText_item, stepsText_member] at h
          exact absurd (List.cons.inj h).2 (repr_append_ne_quote i)
      | member name =>
        cases t with
        | item j =>
          rw [stepsText_item, stepsText_member] at h
          exact absurd (List.cons.inj h).2.symm (repr_append_ne_quote j)
        | member other =>
          rw [stepsText_member, stepsText_member] at h
          obtain ⟨hname, hl⟩ := pathName_append_inj (List.cons.inj (List.cons.inj h).2).2
          rw [String.toList_inj.1 hname, ih hl]

end

/-- Two nodes have one path if and only if they stand at one location, whatever is in the names. -/
theorem Node.path_eq_iff {n m : Node} : n.path = m.path ↔ n.location = m.location := by
  constructor
  · intro h
    have htext := congrArg String.toList h
    rw [path, path, Location.toList_text, Location.toList_text] at htext
    exact stepsText_inj (List.cons.inj htext).2
  · intro h
    rw [path, path, h]

-- The quote that closes the first name seems to be escaped.
example : Node.path ⟨[.member "\\", .member "a"], .null⟩ = "$['\\']['a']" := rfl

end PathQuery
