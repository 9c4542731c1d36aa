import PathQuery.Proofs.Node.Path
import PathQuery.Proofs.Token.Place

/-! Paths inside out. A path escapes the quotes of its names but not the backslashes, so a backslash
can make a string end behind the name that it stands in; from there on, names stand outside of quotes
and what is between them stands inside. -/
namespace PathQuery
open Token Scan

/-- Neither quotes nor backslashes. -/
def Plain (cs : List Char) : Prop := ∀ c ∈ cs, c ≠ '\'' ∧ c ≠ '\\'

namespace Plain
variable {cs ds text : List Char} {length : Nat}

theorem append (h : Plain cs) (h' : Plain ds) : Plain (cs ++ ds) := by
  intro c hc
  rcases List.mem_append.1 hc with hc | hc
  · exact h c hc
  · exact h' c hc

theorem cons {c : Char} (hc : c ≠ '\'' ∧ c ≠ '\\') (h : Plain cs) : Plain (c :: cs) :=
  List.forall_mem_cons.2 ⟨hc, h⟩

theorem of_all {p : Char → Bool} (h0 : p '\'' = false) (h1 : p '\\' = false)
    (h : ∀ c ∈ cs, p c = true) : Plain cs := by
  intro c hc
  have hp := h c hc
  constructor
  · rintro rfl
    simp [h0] at hp
  · rintro rfl
    simp [h1] at hp

theorem takeWhile {p : Char → Bool} (h0 : p '\'' = false) (h1 : p '\\' = false) :
    Plain (text.take (text.takeWhile p).length) := by
  rw [take_takeWhile]
  exact of_all h0 h1 fun c hc => List.mem_takeWhile_imp hc

theorem digits (text : List Char) : Plain (text.take (Scan.digits text)) :=
  takeWhile (by decide) (by decide)

theorem whole (h : Scan.whole text = .ok length) : Plain (text.take length) := by
  unfold Scan.whole at h
  split at h
  next rest =>
    split at h
    · cases h
    · cases h
      exact cons (by decide) (digits rest)
  · cases h
    exact digits text

theorem fraction (h : Scan.fraction text = .ok length) : Plain (text.take length) := by
  unfold Scan.fraction at h
  split at h
  next rest =>
    split at h
    · cases h
    · cases h
      exact cons (by decide) (digits rest)
  · cases h
    simp [Plain]

theorem exponent (h : Scan.exponent text = .ok length) : Plain (text.take length) := by
  unfold Scan.exponent at h
  split at h
  case h_1 rest | h_2 rest =>
    change (if Scan.digits (rest.drop (signLength rest)) = 0
      then .error (.expectedExponent, signLength rest + 1)
      else .ok (signLength rest + Scan.digits (rest.drop (signLength rest)) + 1) : Result) = _ at h
    split at h
    · cases h
    · cases h
      refine cons (by decide) ?_
      rw [List.take_add]
      refine append ?_ (digits _)
      unfold signLength
      split
      · exact cons (by decide) (by simp [Plain])
      · exact cons (by decide) (by simp [Plain])
      · simp [Plain]
  · cases h
    simp [Plain]

theorem number {isFloat : Bool} (h : Scan.number text = .ok (length, isFloat)) :
    Plain (text.take length) := by
  obtain ⟨a, b, c, ha, hb, hc, rfl, -⟩ := number_eq_ok.1 h
  rw [List.take_add, List.take_add]
  exact ((whole ha).append (fraction hb)).append (exponent hc)

end Plain

/-! How a quoted string ends -/

/-- A string in these quotes that begins with `text` leaves `rest` behind its closing quote. -/
inductive Closes (quote : Char) : List Char → List Char → Prop where
  | here {rest : List Char} : Closes quote (quote :: rest) rest
  | pair {c : Char} {text rest : List Char} (hc : isEscapable c = true)
      (h : Closes quote text rest) : Closes quote ('\\' :: c :: text) rest
  | plain {c : Char} {text rest : List Char} (hb : c ≠ '\\') (hq : c ≠ quote)
      (h : Closes quote text rest) : Closes quote (c :: text) rest

namespace Closes
variable {quote c : Char} {text rest front : List Char}

theorem of_string {opened : Position} {read length : Nat}
    (h : Scan.string quote opened read text = .ok length) :
    Closes quote text (text.drop (length - read)) := by
  fun_induction Scan.string quote opened read text with
  | case1 => cases h
  | case2 read c rest hc ih =>
    have hl := string_length h
    rw [show length - read = length - (read + 2) + 2 by omega]
    exact .pair hc (ih h)
  | case3 => cases h
  | case4 => cases h
  | case5 read rest hpair hlast =>
    cases h
    rw [Nat.add_sub_cancel_left]
    exact .here
  | case6 read c rest hpair hlast hc ih =>
    have hl := string_length h
    rw [show length - read = length - (read + 1) + 1 by omega]
    refine .plain ?_ hc (ih h)
    rintro rfl
    cases rest with
    | nil => exact hlast rfl rfl
    | cons d rest => exact hpair d rest rfl rfl

/-- What is left follows a quote. -/
theorem eq_append (h : Closes quote text rest) : ∃ front, text = front ++ quote :: rest := by
  induction h with
  | here => exact ⟨[], rfl⟩
  | @pair c text rest hc h ih =>
    obtain ⟨front, rfl⟩ := ih
    exact ⟨'\\' :: c :: front, rfl⟩
  | @plain c text rest hb hq h ih =>
    obtain ⟨front, rfl⟩ := ih
    exact ⟨c :: front, rfl⟩

theorem eq_of_quote (h : Closes quote (quote :: text) rest) (hq : quote ≠ '\\') : rest = text := by
  cases h with
  | here => rfl
  | pair => exact absurd rfl hq
  | plain hb hne => exact absurd rfl hne

theorem of_cons (h : Closes quote (c :: text) rest) (hb : c ≠ '\\') (hq : c ≠ quote) :
    Closes quote text rest := by
  cases h with
  | here => exact absurd rfl hq
  | pair => exact absurd rfl hb
  | plain _ _ h => exact h

theorem of_append (h : Closes '\'' (front ++ text) rest) (hf : Plain front) :
    Closes '\'' text rest := by
  induction front with
  | nil => exact h
  | cons c front ih =>
    obtain ⟨hq, hb⟩ := hf c (by simp)
    exact ih (h.of_cons hb hq) fun d hd => hf d (by simp [hd])

end Closes

theorem exists_of_regex {opened : Position} {read length : Nat} {text : List Char}
    (h : Scan.regex opened read text = .ok length) :
    ∃ front, text = front ++ '/' :: text.drop (length - read) := by
  fun_induction Scan.regex opened read text with
  | case1 => cases h
  | case2 => cases h
  | case3 read c rest ih =>
    have hl := (regex_slashless h).1
    obtain ⟨front, hfront⟩ := ih h
    refine ⟨'\\' :: c :: front, ?_⟩
    rw [show length - read = length - (read + 2) + 2 by omega]
    simpa using hfront
  | case4 read rest =>
    cases h
    exact ⟨[], by simp⟩
  | case5 read c rest hend hpair hslash ih =>
    have hl := (regex_slashless h).1
    obtain ⟨front, hfront⟩ := ih h
    refine ⟨c :: front, ?_⟩
    rw [show length - read = length - (read + 1) + 1 by omega]
    simpa using hfront

/-! Paths inside out -/

/-- Every quote comes with a backslash in front. -/
inductive Escaped : List Char → Prop where
  | nil : Escaped []
  | pair {rest : List Char} (h : Escaped rest) : Escaped ('\\' :: '\'' :: rest)
  | other {c : Char} {rest : List Char} (hc : c ≠ '\'') (h : Escaped rest) : Escaped (c :: rest)

/-- A name as a path spells it. -/
def pathName (cs : List Char) : List Char := cs.flatMap Step.text.escape

@[simp] theorem pathName_quote (cs : List Char) :
    pathName ('\'' :: cs) = '\\' :: '\'' :: pathName cs := rfl

theorem pathName_cons {c : Char} (hc : c ≠ '\'') (cs : List Char) :
    pathName (c :: cs) = c :: pathName cs := by
  unfold pathName
  rw [List.flatMap_cons]
  unfold Step.text.escape
  split
  · exact absurd rfl hc
  · rfl

theorem escaped_pathName (cs : List Char) : Escaped (pathName cs) := by
  induction cs with
  | nil => exact .nil
  | cons c cs ih =>
    by_cases hc : c = '\''
    · subst hc
      exact .pair ih
    · rw [pathName_cons hc]
      exact .other hc ih

theorem Escaped.suffix {front rest : List Char} {c : Char} (h : Escaped (front ++ c :: rest))
    (hc : c ≠ '\\') : Escaped rest := by
  generalize htext : front ++ c :: rest = text at h
  induction h generalizing front with
  | nil => simp at htext
  | @pair text h ih =>
    match front with
    | [] => exact absurd (List.cons.inj htext).1 hc
    | [d] =>
      cases htext
      exact h
    | d :: e :: front =>
      cases htext
      exact ih rfl
  | @other d text hd h ih =>
    match front with
    | [] =>
      cases htext
      exact h
    | e :: front =>
      cases htext
      exact ih rfl

/-- A path spends one character on each quote, and none on a backslash. -/
theorem length_pathName (cs : List Char) :
    2 * (pathName cs).length + cs.count '\\' =
      2 * cs.length + (pathName cs).countP Escape.isMarked := by
  have quote : Escape.isMarked '\'' = true := by decide
  have backslash : Escape.isMarked '\\' = true := by decide
  induction cs with
  | nil => rfl
  | cons c cs ih =>
    by_cases hq : c = '\''
    · subst hq
      simp only [pathName_quote, List.length_cons, List.countP_cons, List.count_cons, quote,
        backslash]
      simp
      omega
    · rw [pathName_cons hq]
      by_cases hb : c = '\\'
      · subst hb
        simp only [List.length_cons, List.countP_cons, List.count_cons, backslash]
        simp
        omega
      · have plain : Escape.isMarked c = false := by simp [Escape.isMarked, hq, hb]
        simp only [List.length_cons, List.countP_cons, List.count_cons, plain]
        simp [hb]
        omega

/-- So a backslash makes a name another when it is read. -/
theorem ne_of_decode?_pathName {cs ds : List Char} (h : Quotable '\'' (pathName cs))
    (hb : '\\' ∈ cs) (hd : Escape.decode? true (pathName cs) = some ds) : ds ≠ cs := by
  have hread := Escape.length_decode? h hd
  have hpath := length_pathName cs
  have hcount : 0 < cs.count '\\' := List.count_pos_iff.2 hb
  rintro rfl
  omega

/-- The text of the steps of a path. -/
def stepsText (l : Location) : List Char := l.flatMap fun s => s.text.toList

@[simp] theorem stepsText_item (i : Nat) (l : Location) :
    stepsText (.item i :: l) = '[' :: (i.repr.toList ++ ']' :: stepsText l) := by
  simp [stepsText, Step.text]

@[simp] theorem stepsText_member (name : String) (l : Location) :
    stepsText (.member name :: l) =
      '[' :: '\'' :: (pathName name.toList ++ '\'' :: ']' :: stepsText l) := by
  simp [stepsText, Step.text, pathName]

/-- The text from within a name of a path on, or from where the lexer takes it for that. -/
def Inverted (text : List Char) : Prop :=
  ∃ inside l, Escaped inside ∧ text = inside ++ '\'' :: ']' :: stepsText l

namespace Inverted
variable {text rest front : List Char} {c : Char} {l : Location} {n : Nat}

/-- Behind what is neither quote nor backslash, the text is still inside out. -/
theorem drop (h : Inverted text) (hp : Plain (text.take n)) : Inverted (text.drop n) := by
  obtain ⟨inside, l, he, rfl⟩ := h
  induction he generalizing n with
  | nil =>
    cases n with
    | zero => exact ⟨[], l, .nil, rfl⟩
    | succ n => exact absurd rfl (hp '\'' (by simp)).1
  | pair h ih =>
    cases n with
    | zero => exact ⟨_, l, .pair h, rfl⟩
    | succ n => exact absurd rfl (hp '\\' (by simp)).2
  | @other c inside hc h ih =>
    cases n with
    | zero => exact ⟨_, l, .other hc h, rfl⟩
    | succ n => exact ih fun d hd => hp d (by simp [hd])

theorem exists_of_notMem {front front' back rest : List Char}
    (h : front ++ back = front' ++ c :: rest) (hc : c ∉ front) :
    ∃ more, back = more ++ c :: rest := by
  rcases List.append_eq_append_iff.1 h with ⟨more, rfl, rfl⟩ | ⟨more, rfl, hback⟩
  · exact ⟨more, rfl⟩
  · cases more with
    | nil => exact ⟨[], hback.symm⟩
    | cons d more =>
      cases hback
      exact absurd (by simp) hc

theorem isDigit_repr (i : Nat) : ∀ c ∈ i.repr.toList, c.isDigit = true := by
  rw [Nat.toList_repr]
  exact Numeral.isDigits_toDigits i

theorem of_inside {inside : List Char} (he : Escaped inside)
    (hl : ∀ {front}, stepsText l = front ++ c :: rest → Inverted rest)
    (h : inside ++ '\'' :: ']' :: stepsText l = front ++ c :: rest) (hc : c = '"' ∨ c = '/') :
    Inverted rest := by
  rcases List.append_eq_append_iff.1 h with ⟨more, rfl, hmore⟩ | ⟨more, rfl, hmore⟩
  · have hclose : ['\'', ']'] ++ stepsText l = more ++ c :: rest := hmore
    obtain ⟨more, hmore⟩ := exists_of_notMem hclose (by rcases hc with rfl | rfl <;> decide)
    exact hl hmore
  · cases more with
    | nil =>
      have : c = '\'' := (List.cons.inj hmore).1
      rcases hc with rfl | rfl <;> simp at this
    | cons d more =>
      obtain ⟨rfl, rfl⟩ := List.cons.inj hmore
      exact ⟨more, l, he.suffix (by rcases hc with rfl | rfl <;> decide), rfl⟩

/-- Double quotes and slashes stand in names only, so behind one a path is inside out. -/
theorem of_stepsText (h : stepsText l = front ++ c :: rest) (hc : c = '"' ∨ c = '/') :
    Inverted rest := by
  induction l generalizing front with
  | nil => simp [stepsText] at h
  | cons s l ih =>
    cases s with
    | item i =>
      have hitem : ('[' :: (i.repr.toList ++ [']'])) ++ stepsText l = front ++ c :: rest := by
        rw [← h]
        simp
      have hdigit : c.isDigit = false := by rcases hc with rfl | rfl <;> rfl
      have hrepr : c ∉ i.repr.toList := fun hm => by simp [isDigit_repr i c hm] at hdigit
      obtain ⟨more, hmore⟩ := exists_of_notMem hitem (by
        rcases hc with rfl | rfl <;> simpa using hrepr)
      exact ih hmore
    | member name =>
      have hmember : ['[', '\''] ++ (pathName name.toList ++ '\'' :: ']' :: stepsText l) =
          front ++ c :: rest := by
        rw [← h]
        simp
      obtain ⟨more, hmore⟩ := exists_of_notMem hmember (by rcases hc with rfl | rfl <;> decide)
      exact of_inside (escaped_pathName _) ih hmore hc

theorem of_delimiter (h : Inverted text) (htext : text = front ++ c :: rest)
    (hc : c = '"' ∨ c = '/') : Inverted rest := by
  obtain ⟨inside, l, he, rfl⟩ := h
  exact of_inside he (fun hl => of_stepsText hl hc) htext hc

/-- A string that begins with the steps of a path ends where the next name begins. -/
theorem of_closes (h : Closes '\'' (stepsText l) rest) : Inverted rest := by
  induction l with
  | nil => cases h
  | cons s l ih =>
    cases s with
    | item i =>
      have hitem : stepsText (.item i :: l) = ('[' :: (i.repr.toList ++ [']'])) ++ stepsText l := by
        simp
      have index : Plain i.repr.toList := .of_all (by decide) (by decide) (isDigit_repr i)
      rw [hitem] at h
      exact ih (h.of_append (.cons (by decide) (index.append (by simp [Plain]))))
    | member name =>
      rw [stepsText_member] at h
      have hrest := (h.of_cons (by decide) (by decide)).eq_of_quote (by decide)
      exact ⟨_, l, escaped_pathName _, hrest⟩

/-- A quote in front is one of the path, so the string that it seems to begin ends at the next. -/
theorem of_quote (h : Inverted ('\'' :: text)) (hc : Closes '\'' text rest) : Inverted rest := by
  obtain ⟨inside, l, he, htext⟩ := h
  cases he with
  | nil =>
    cases htext
    exact of_closes (hc.of_cons (by decide) (by decide))
  | pair => cases htext
  | other hne =>
    cases htext
    exact absurd rfl hne

end Inverted

/-- A name in a path is read up to its quote, or else the text behind it is inside out. -/
theorem quotable_or_inverted {l : Location} {rest : List Char} (cs : List Char)
    (h : Closes '\'' (pathName cs ++ '\'' :: ']' :: stepsText l) rest) :
    Quotable '\'' (pathName cs) ∨ Inverted rest := by
  induction hn : cs.length using Nat.strong_induction_on generalizing cs with
  | _ n ih =>
    cases cs with
    | nil => exact .inl .nil
    | cons c cs =>
      have hcs : cs.length < n := by simp [← hn]
      by_cases hq : c = '\''
      · subst hq
        cases h with
        | pair hc h => exact (ih _ hcs cs h rfl).imp (.pair hc) id
        | plain hb => exact absurd rfl hb
      · rw [pathName_cons hq] at h ⊢
        by_cases hb : c = '\\'
        · subst hb
          -- The backslash takes the next character along, be it one more or the closing quote.
          cases cs with
          | nil =>
            cases h with
            | pair hc h => exact .inr (Inverted.of_closes (h.of_cons (by decide) (by decide)))
            | plain hb => exact absurd rfl hb
          | cons d cs =>
            by_cases hd : d = '\''
            · subst hd
              cases h with
              | pair hc h =>
                exact .inr ⟨_, l, escaped_pathName cs, h.eq_of_quote (by decide)⟩
              | plain hb => exact absurd rfl hb
            · rw [pathName_cons hd] at h ⊢
              cases h with
              | pair hc h =>
                exact (ih _ (Nat.lt_of_succ_lt hcs) cs h rfl).imp (.pair hc) id
              | plain hb => exact absurd rfl hb
        · exact (ih _ hcs cs (h.of_cons hb hq) rfl).imp (.plain hb hq) id

end PathQuery
