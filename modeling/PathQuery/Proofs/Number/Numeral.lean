import PathQuery.Number.Decimal
import PathQuery.Proofs.Token.Shape

/-! Numerals in the form in which numbers are printed: how they are scanned and read. -/
namespace PathQuery.Numeral

def IsDigits (ds : List Char) : Prop := ∀ c ∈ ds, c.isDigit = true

def signText (negative : Bool) : List Char := if negative then ['-'] else []

/-- A point and digits, if there are any. -/
def fractionText (fraction : List Char) : List Char :=
  if fraction.isEmpty then [] else '.' :: fraction

/-- An exponent with its letter and its sign. -/
def exponentText : Option Int → List Char
  | some e => 'e' :: (if e < 0 then '-' else '+') :: Nat.toDigits 10 e.natAbs
  | none => []

/-- Sign and digits, with a point and more digits if there are any, and an exponent or none. -/
def spell (negative : Bool) (whole fraction : List Char) (exponent : Option Int) : List Char :=
  signText negative ++ (whole ++ (fractionText fraction ++ exponentText exponent))

/-- Nothing that a numeral could go on with. -/
def Ends (rest : List Char) : Prop :=
  ∀ c ∈ rest.head?, c.isDigit = false ∧ c ≠ '.' ∧ c ≠ 'e' ∧ c ≠ 'E'

section
variable {ds fraction rest : List Char} {exponent : Option Int}

theorem takeWhile_digits (hd : IsDigits ds) (hr : ∀ c ∈ rest.head?, c.isDigit = false) :
    (ds ++ rest).takeWhile Char.isDigit = ds := by
  rw [List.takeWhile_append_of_pos hd]
  cases rest with
  | nil => simp
  | cons c rest => simp [hr c rfl]

theorem dropWhile_digits (hd : IsDigits ds) (hr : ∀ c ∈ rest.head?, c.isDigit = false) :
    (ds ++ rest).dropWhile Char.isDigit = rest := by
  rw [List.dropWhile_append_of_pos hd]
  cases rest with
  | nil => simp
  | cons c rest => simp [hr c rfl]

theorem scan_digits (hd : IsDigits ds) (hr : ∀ c ∈ rest.head?, c.isDigit = false) :
    Scan.digits (ds ++ rest) = ds.length := by
  rw [Scan.digits, takeWhile_digits hd hr]

theorem digits?_append (hd : IsDigits ds) (hne : ds ≠ [])
    (hr : ∀ c ∈ rest.head?, c.isDigit = false) : digits? (ds ++ rest) = some (ds, rest) := by
  rw [digits?, takeWhile_digits hd hr, dropWhile_digits hd hr, if_neg (by simpa using hne)]

theorem IsDigits.append {ds ds' : List Char} (h : IsDigits ds) (h' : IsDigits ds') :
    IsDigits (ds ++ ds') := by
  intro c hc
  rcases List.mem_append.1 hc with hc | hc
  · exact h c hc
  · exact h' c hc

theorem isDigits_zeros (n : Nat) : IsDigits (List.replicate n '0') := by
  intro c hc
  rw [List.eq_of_mem_replicate hc]
  rfl

theorem isDigits_toDigits (n : Nat) : IsDigits (Nat.toDigits 10 n) := by
  intro _
  exact Nat.isDigit_of_mem_toDigits (by decide) (by decide)

theorem not_digit_of_exponentText (hr : Ends rest) :
    ∀ c ∈ (exponentText exponent ++ rest).head?, c.isDigit = false ∧ c ≠ '.' := by
  intro c hc
  cases exponent with
  | none => exact ⟨(hr c hc).1, (hr c hc).2.1⟩
  | some e =>
    simp only [exponentText, List.cons_append, List.head?_cons, Option.mem_some_iff] at hc
    subst hc
    decide

theorem not_digit_of_fractionText (hr : Ends rest) :
    ∀ c ∈ (fractionText fraction ++ (exponentText exponent ++ rest)).head?, c.isDigit = false := by
  intro c hc
  unfold fractionText at hc
  split at hc
  · exact (not_digit_of_exponentText hr c hc).1
  · simp only [List.cons_append, List.head?_cons, Option.mem_some_iff] at hc
    subst hc
    decide

theorem scan_whole {negative : Bool} (hd : IsDigits ds) (hne : ds ≠ [])
    (hr : ∀ c ∈ rest.head?, c.isDigit = false) :
    Scan.whole (signText negative ++ (ds ++ rest)) = .ok (signText negative ++ ds).length := by
  have hlen : Scan.digits (ds ++ rest) = ds.length := scan_digits hd hr
  have hpos := List.length_pos_iff.2 hne
  cases negative with
  | true =>
    show Scan.whole ('-' :: (ds ++ rest)) = _
    rw [Scan.whole, hlen, if_neg (by omega)]
    rfl
  | false =>
    obtain ⟨d, more, rfl⟩ := List.exists_cons_of_ne_nil hne
    have hdigit : d.isDigit = true := hd d (by simp)
    show Scan.whole (d :: more ++ rest) = _
    unfold Scan.whole
    split
    next hm =>
      cases hm
      simp at hdigit
    · rw [hlen]
      rfl

theorem scan_fraction (hd : IsDigits fraction)
    (hr : ∀ c ∈ rest.head?, c.isDigit = false ∧ c ≠ '.') :
    Scan.fraction (fractionText fraction ++ rest) = .ok (fractionText fraction).length := by
  unfold fractionText
  split
  · unfold Scan.fraction
    split
    next more hm =>
      rw [List.nil_append] at hm
      exact absurd rfl (hr '.' (by simp [hm])).2
    · rfl
  next hne =>
    have hlen : Scan.digits (fraction ++ rest) = fraction.length :=
      scan_digits hd fun c hc => (hr c hc).1
    have hpos := List.length_pos_iff.2 (show fraction ≠ [] by simpa using hne)
    rw [List.cons_append, Scan.fraction, hlen, if_neg (by omega)]
    rfl

theorem scan_exponent (hr : Ends rest) :
    Scan.exponent (exponentText exponent ++ rest) = .ok (exponentText exponent).length := by
  cases exponent with
  | none =>
    unfold exponentText Scan.exponent
    split
    next more hm =>
      rw [List.nil_append] at hm
      exact absurd rfl (hr 'e' (by simp [hm])).2.2.1
    next more hm =>
      rw [List.nil_append] at hm
      exact absurd rfl (hr 'E' (by simp [hm])).2.2.2
    · rfl
  | some e =>
    have hlen : Scan.digits (Nat.toDigits 10 e.natAbs ++ rest) =
        (Nat.toDigits 10 e.natAbs).length :=
      scan_digits (isDigits_toDigits _) fun c hc => (hr c hc).1
    have hpos : 0 < (Nat.toDigits 10 e.natAbs).length := List.length_pos_iff.2 Nat.toDigits_ne_nil
    have signed (c : Char) (hc : c = '-' ∨ c = '+') :
        Scan.exponent ('e' :: c :: (Nat.toDigits 10 e.natAbs ++ rest)) =
          .ok ('e' :: c :: Nat.toDigits 10 e.natAbs).length := by
      have htotal : 1 + (Nat.toDigits 10 e.natAbs).length + 1 =
          ('e' :: c :: Nat.toDigits 10 e.natAbs).length := by
        simp only [List.length_cons]
        omega
      rcases hc with rfl | rfl
      · show (if Scan.digits (Nat.toDigits 10 e.natAbs ++ rest) = 0 then .error _
          else .ok (1 + Scan.digits (Nat.toDigits 10 e.natAbs ++ rest) + 1) : Scan.Result) = _
        rw [hlen, if_neg (by omega), htotal]
      · show (if Scan.digits (Nat.toDigits 10 e.natAbs ++ rest) = 0 then .error _
          else .ok (1 + Scan.digits (Nat.toDigits 10 e.natAbs ++ rest) + 1) : Scan.Result) = _
        rw [hlen, if_neg (by omega), htotal]
    by_cases he : e < 0
    · simpa [exponentText, he] using signed '-' (.inl rfl)
    · simpa [exponentText, he] using signed '+' (.inr rfl)

/-- A numeral is scanned up to its end. -/
theorem scan_spell {negative : Bool} {whole : List Char} (hw : IsDigits whole) (hne : whole ≠ [])
    (hf : IsDigits fraction) (hr : Ends rest) :
    Scan.number (spell negative whole fraction exponent ++ rest) =
      .ok ((spell negative whole fraction exponent).length,
        !fraction.isEmpty || exponent.isSome) := by
  have hf' : ∀ c ∈ (fractionText fraction ++ (exponentText exponent ++ rest)).head?,
    c.isDigit = false := not_digit_of_fractionText hr
  have ha : Scan.whole (spell negative whole fraction exponent ++ rest) =
      .ok (signText negative ++ whole).length := by
    simpa [spell] using scan_whole hw hne hf'
  have hb : Scan.fraction ((spell negative whole fraction exponent ++ rest).drop
      (signText negative ++ whole).length) = .ok (fractionText fraction).length := by
    have hdrop : spell negative whole fraction exponent ++ rest =
        (signText negative ++ whole) ++
          (fractionText fraction ++ (exponentText exponent ++ rest)) := by
      simp [spell]
    rw [hdrop, List.drop_left]
    exact scan_fraction hf (not_digit_of_exponentText hr)
  have hc : Scan.exponent ((spell negative whole fraction exponent ++ rest).drop
      ((signText negative ++ whole).length + (fractionText fraction).length)) =
        .ok (exponentText exponent).length := by
    have hdrop : spell negative whole fraction exponent ++ rest =
        (signText negative ++ whole ++ fractionText fraction) ++
          (exponentText exponent ++ rest) := by
      simp [spell]
    rw [hdrop, ← List.length_append, List.drop_left]
    exact scan_exponent hr
  have htotal : (signText negative ++ whole).length + (fractionText fraction).length +
      (exponentText exponent).length = (spell negative whole fraction exponent).length := by
    simp only [spell, List.length_append]
    omega
  have hmore : decide ((spell negative whole fraction exponent).length ≠
      (signText negative ++ whole).length) = (!fraction.isEmpty || exponent.isSome) := by
    rw [← htotal]
    cases exponent <;> cases fraction <;> simp [fractionText, exponentText]
    omega
  simp only [Scan.number, ha, hb, hc, Scan.onward, bind, Except.bind, pure, Except.pure, htotal,
    hmore]

theorem sign_spell {negative : Bool} (hd : IsDigits ds) (hne : ds ≠ []) :
    sign (signText negative ++ (ds ++ rest)) = (negative, ds ++ rest) := by
  cases negative with
  | true => rfl
  | false =>
    obtain ⟨d, more, rfl⟩ := List.exists_cons_of_ne_nil hne
    have hdigit : d.isDigit = true := hd d (by simp)
    show sign (d :: (more ++ rest)) = _
    unfold sign
    split
    next hm =>
      cases hm
      simp at hdigit
    · rfl

theorem fraction?_text (hd : IsDigits fraction)
    (hr : ∀ c ∈ rest.head?, c.isDigit = false ∧ c ≠ '.') :
    fraction? (fractionText fraction ++ rest) =
      some (if fraction.isEmpty then none else some fraction, rest) := by
  unfold fractionText
  split
  · unfold fraction?
    split
    next more hm =>
      rw [List.nil_append] at hm
      exact absurd rfl (hr '.' (by simp [hm])).2
    · rfl
  next hne =>
    rw [List.cons_append, fraction?,
      digits?_append hd (by simpa using hne) fun c hc => (hr c hc).1]
    rfl

theorem exponent?_text : exponent? (exponentText exponent) = some (exponent, []) := by
  cases exponent with
  | none => rfl
  | some e =>
    have hdigits : digits? (Nat.toDigits 10 e.natAbs ++ []) = some (Nat.toDigits 10 e.natAbs, []) :=
      digits?_append (isDigits_toDigits e.natAbs) Nat.toDigits_ne_nil (by simp)
    rw [List.append_nil] at hdigits
    by_cases he : e < 0
    · have hs : exponentSign ('-' :: Nat.toDigits 10 e.natAbs) =
          (true, Nat.toDigits 10 e.natAbs) := rfl
      simp only [exponentText, he, if_true, exponent?, signed?, hs, hdigits, Option.map_some,
        exponentValue]
      congr 3
      simp only [Nat.ofDigitChars_ten_toDigits]
      omega
    · have hs : exponentSign ('+' :: Nat.toDigits 10 e.natAbs) =
          (false, Nat.toDigits 10 e.natAbs) := rfl
      simp only [exponentText, he, if_false, exponent?, signed?, hs, hdigits, Option.map_some,
        exponentValue]
      congr 3
      simp only [Nat.ofDigitChars_ten_toDigits, Bool.false_eq_true, if_false]
      omega

/-- A numeral is read as what it spells. -/
theorem read?_spell {negative : Bool} {whole : List Char} (hw : IsDigits whole) (hne : whole ≠ [])
    (hf : IsDigits fraction) :
    read? (spell negative whole fraction exponent) =
      some (⟨negative, whole, if fraction.isEmpty then none else some fraction, exponent⟩, []) := by
  have hnil : Ends [] := by simp [Ends]
  have he : ∀ c ∈ (exponentText exponent).head?, c.isDigit = false ∧ c ≠ '.' := by
    simpa using not_digit_of_exponentText hnil
  have hfr : ∀ c ∈ (fractionText fraction ++ exponentText exponent).head?, c.isDigit = false := by
    simpa using not_digit_of_fractionText hnil
  have ha : sign (signText negative ++
      (whole ++ (fractionText fraction ++ exponentText exponent))) =
        (negative, whole ++ (fractionText fraction ++ exponentText exponent)) :=
    sign_spell hw hne
  have hb := digits?_append hw hne hfr
  have hc := fraction?_text hf he
  simp only [read?, spell, ha, hb, hc, exponent?_text, Option.bind_eq_bind, Option.bind_some,
    Option.pure_def]

theorem mem_fractionText {c : Char} (hf : IsDigits fraction) (h : c ∈ fractionText fraction) :
    c.isDigit = true ∨ c = '.' := by
  unfold fractionText at h
  split at h
  · simp at h
  · rcases List.mem_cons.1 h with rfl | h
    · exact .inr rfl
    · exact .inl (hf c h)

theorem mem_exponentText {c : Char} (h : c ∈ exponentText exponent) :
    c.isDigit = true ∨ c ∈ ['e', '-', '+'] := by
  cases exponent with
  | none => simp [exponentText] at h
  | some e =>
    rcases List.mem_cons.1 h with rfl | h
    · exact .inr (by decide)
    · rcases List.mem_cons.1 h with rfl | h
      · right
        split <;> decide
      · exact .inl (isDigits_toDigits e.natAbs c h)

/-- The characters of a numeral in its printed form. -/
theorem mem_spell {negative : Bool} {whole : List Char} {c : Char} (hw : IsDigits whole)
    (hf : IsDigits fraction) (h : c ∈ spell negative whole fraction exponent) :
    c.isDigit = true ∨ c ∈ ['.', 'e', '-', '+'] := by
  simp only [spell, List.mem_append] at h
  rcases h with h | h | h | h
  · cases negative with
    | true => exact .inr (by simp [List.mem_singleton.1 h])
    | false => simp [signText] at h
  · exact .inl (hw c h)
  · exact (mem_fractionText hf h).imp_right fun hc => by simp [hc]
  · exact (mem_exponentText h).imp_right (List.mem_cons_of_mem _)

theorem nul_notMem_spell {negative : Bool} {whole : List Char} (hw : IsDigits whole)
    (hf : IsDigits fraction) : '\x00' ∉ spell negative whole fraction exponent := by
  intro h
  exact absurd (mem_spell hw hf h) (by decide)

end

end PathQuery.Numeral
