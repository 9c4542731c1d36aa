import PathQuery.Proofs.Token.Shape

/-! Three ways to escape: quoted names, strings of JSON and patterns between slashes. Each is read
back up to its closing delimiter, and what it escapes is restored. -/
namespace PathQuery

namespace Scan
variable {quote : Char} {opened : Position} {raw rest : List Char}

/-- What may stand between quotes. -/
inductive Quotable (quote : Char) : List Char → Prop where
  | nil : Quotable quote []
  | pair {c : Char} {rest : List Char} (hc : isEscapable c = true) (h : Quotable quote rest) :
      Quotable quote ('\\' :: c :: rest)
  | plain {c : Char} {rest : List Char} (hb : c ≠ '\\') (hq : c ≠ quote)
      (h : Quotable quote rest) : Quotable quote (c :: rest)

theorem Quotable.of_pair {c : Char} (h : Quotable quote ('\\' :: c :: rest)) :
    Quotable quote rest := by
  cases h with
  | pair _ h => exact h
  | plain hb => exact absurd rfl hb

theorem Quotable.of_cons {c : Char} (h : Quotable quote (c :: rest)) (hb : c ≠ '\\') :
    c ≠ quote ∧ Quotable quote rest := by
  cases h with
  | pair => exact absurd rfl hb
  | plain _ hq h => exact ⟨hq, h⟩

theorem string_pair {c : Char} (read : Nat) (hc : isEscapable c = true) :
    string quote opened read ('\\' :: c :: rest) = string quote opened (read + 2) rest := by
  simp [string, hc]

theorem string_plain {c : Char} (read : Nat) (hb : c ≠ '\\') (hq : c ≠ quote) :
    string quote opened read (c :: rest) = string quote opened (read + 1) rest := by
  rw [string, if_neg hq]
  · intro _ _ h
    exact absurd h hb
  · intro h
    exact absurd h hb

theorem string_closed (read : Nat) (h : Quotable quote raw) (hq : quote ≠ '\\') :
    string quote opened read (raw ++ quote :: rest) = .ok (read + raw.length + 1) := by
  induction h generalizing read with
  | nil =>
    rw [List.nil_append, string, if_pos rfl]
    · rfl
    · intro _ _ h
      exact absurd h hq
    · intro h
      exact absurd h hq
  | pair hc _ ih =>
    rw [List.cons_append, List.cons_append, string_pair read hc, ih]
    simp only [List.length_cons]
    congr 1
    omega
  | plain hb hne _ ih =>
    rw [List.cons_append, string_plain read hb hne, ih]
    simp only [List.length_cons]
    congr 1
    omega

theorem string_unclosed (read : Nat) (h : Quotable quote raw) :
    string quote opened read raw = .error (.unclosedString opened, read + raw.length) := by
  induction h generalizing read with
  | nil => rfl
  | pair hc _ ih =>
    rw [string_pair read hc, ih]
    simp only [List.length_cons]
    congr 2
    omega
  | plain hb hne _ ih =>
    rw [string_plain read hb hne, ih]
    simp only [List.length_cons]
    congr 2
    omega

theorem regex_pair {c : Char} (read : Nat) :
    regex opened read ('\\' :: c :: rest) = regex opened (read + 2) rest := rfl

theorem regex_plain {c : Char} (read : Nat) (hb : c ≠ '\\') (hs : c ≠ '/') :
    regex opened read (c :: rest) = regex opened (read + 1) rest := by
  rw [regex]
  · intro h
    exact absurd h hb
  · intro _ _ h
    exact absurd h hb
  · exact hs

theorem regex_closed (read : Nat) (h : Slashless raw) :
    regex opened read (raw ++ '/' :: rest) = .ok (read + raw.length + 1) := by
  induction h generalizing read with
  | nil => rfl
  | pair _ ih =>
    rw [List.cons_append, List.cons_append, regex_pair, ih]
    simp only [List.length_cons]
    congr 1
    omega
  | plain hb hs _ ih =>
    rw [List.cons_append, regex_plain read hb hs, ih]
    simp only [List.length_cons]
    congr 1
    omega

end Scan

namespace Escape

theorem decode?_plain {apostrophe : Bool} {c : Char} {rest : List Char} (hb : c ≠ '\\') :
    decode? apostrophe (c :: rest) = (decode? apostrophe rest).map (c :: ·) := by
  rw [decode?]
  · cases decode? apostrophe rest <;> rfl
  · intro _ _ _ _ _ h
    exact absurd h hb
  · intro _ _ h
    exact absurd h hb
  · intro h
    exact absurd h hb

theorem decode?_pair {apostrophe : Bool} {c d : Char} {rest : List Char} (hu : c ≠ 'u')
    (hc : simple? apostrophe c = some d) :
    decode? apostrophe ('\\' :: c :: rest) = (decode? apostrophe rest).map (d :: ·) := by
  rw [decode?]
  · simp only [hc]
    cases decode? apostrophe rest <;> rfl
  · intro _ _ _ _ _ h
    exact absurd h hu

theorem not_surrogate (c : Char) : isHigh c.toNat = false ∧ isLow c.toNat = false := by
  have hvalid : c.toNat < 0xD800 ∨ 0xDFFF < c.toNat ∧ c.toNat < 0x110000 := c.valid
  simp only [isHigh, isLow, Bool.and_eq_false_iff, decide_eq_false_iff_not]
  omega

theorem decode?_unit {apostrophe : Bool} {a b c d char : Char} {rest : List Char}
    (hu : unit? a b c d = some char.toNat) :
    decode? apostrophe ('\\' :: 'u' :: a :: b :: c :: d :: rest) =
      (decode? apostrophe rest).map (char :: ·) := by
  obtain ⟨hhigh, hlow⟩ := not_surrogate char
  rw [decode?]
  simp only [hu, hhigh, hlow, Bool.false_eq_true, if_false, Option.bind_eq_bind, Option.bind_some,
    Char.ofNat_toNat]
  cases decode? apostrophe rest <;> rfl

/-- A way to write one character between quotes: as itself, as a pair or by its number. -/
inductive Spelled (quote c : Char) : List Char → Prop where
  | plain (hb : c ≠ '\\') (hq : c ≠ quote) : Spelled quote c [c]
  | pair {d : Char} (hu : d ≠ 'u') (he : Scan.isEscapable d = true)
      (hs : simple? true d = some c) : Spelled quote c ['\\', d]
  | number {a b : Char} (hlt : c.toNat < 0xD800) (hu : unit? '0' '0' a b = some c.toNat)
      (hab : ∀ x ∈ ['0', '0', a, b], x ≠ '\\' ∧ x ≠ quote ∧ x ≠ '\x00') :
      Spelled quote c ['\\', 'u', '0', '0', a, b]

namespace Spelled
variable {quote c : Char} {text : List Char}

theorem quotable (h : Spelled quote c text) {rest : List Char} (hr : Scan.Quotable quote rest) :
    Scan.Quotable quote (text ++ rest) := by
  cases h with
  | plain hb hq => exact .plain hb hq hr
  | pair _ he _ => exact .pair he hr
  | @number a b _ _ hab =>
    have digits : Scan.Quotable quote (['0', '0', a, b] ++ rest) := by
      simp only [List.mem_cons, forall_eq_or_imp, List.not_mem_nil, false_imp_iff, implies_true,
        and_true] at hab
      obtain ⟨⟨h0, h0', -⟩, -, ⟨ha, ha', -⟩, hb, hb', -⟩ := hab
      exact .plain h0 h0' (.plain h0 h0' (.plain ha ha' (.plain hb hb' hr)))
    exact .pair rfl digits

theorem decode (h : Spelled quote c text) (rest : List Char) :
    decode? true (text ++ rest) = (decode? true rest).map (c :: ·) := by
  cases h with
  | plain hb _ => exact decode?_plain hb
  | pair hu _ hs => exact decode?_pair hu hs
  | number _ hu _ => exact decode?_unit hu

/-- Only as itself does a character bring U+0000 into the text. -/
theorem nul_mem (h : Spelled quote c text) (h0 : '\x00' ∈ text) : text = [c] ∧ c = '\x00' := by
  cases h with
  | plain => exact ⟨rfl, (List.mem_singleton.1 h0).symm⟩
  | @pair d _ he _ =>
    simp only [List.mem_cons, List.not_mem_nil, or_false] at h0
    rcases h0 with h0 | rfl
    · simp at h0
    · simp [Scan.isEscapable] at he
  | number _ _ hab =>
    have := hab '\x00' (by simpa using h0)
    exact absurd rfl this.2.2

section
variable {escape : Char → List Char} (spelled : ∀ c, Spelled quote c (escape c))
include spelled

theorem quotable_flatMap (cs : List Char) : Scan.Quotable quote (cs.flatMap escape) := by
  induction cs with
  | nil => exact .nil
  | cons c cs ih => exact (spelled c).quotable ih

theorem decode_flatMap (cs : List Char) : decode? true (cs.flatMap escape) = some cs := by
  induction cs with
  | nil => rfl
  | cons c cs ih => rw [List.flatMap_cons, (spelled c).decode, ih, Option.map_some]

theorem nul_mem_flatMap {cs : List Char} (h : '\x00' ∈ cs.flatMap escape) :
    '\x00' ∈ cs ∧ escape '\x00' = ['\x00'] := by
  obtain ⟨c, hc, hm⟩ := List.mem_flatMap.1 h
  obtain ⟨htext, rfl⟩ := (spelled c).nul_mem hm
  exact ⟨hc, htext⟩

end

end Spelled

/-! Escapes are longer than what they stand for. -/

/-- Quotes and backslashes. -/
def isMarked (c : Char) : Bool := c == '\'' || c == '\\'

section
variable {a b c d : Char} {rest : List Char} {unit : Nat}

theorem not_marked_of_hexDigit? {n : Nat} (h : hexDigit? c = some n) : isMarked c = false := by
  have quote : hexDigit? '\'' = none := by decide
  have backslash : hexDigit? '\\' = none := by decide
  by_contra hm
  simp only [isMarked, Bool.not_eq_false, Bool.or_eq_true, beq_iff_eq] at hm
  rcases hm with rfl | rfl
  · simp [quote] at h
  · simp [backslash] at h

theorem not_marked_of_unit? (h : unit? a b c d = some unit) :
    isMarked a = false ∧ isMarked b = false ∧ isMarked c = false ∧ isMarked d = false := by
  simp only [unit?, Option.bind_eq_bind, Option.bind_eq_some_iff] at h
  obtain ⟨i, ha, j, hb, k, hc, l, hd, -⟩ := h
  exact ⟨not_marked_of_hexDigit? ha, not_marked_of_hexDigit? hb, not_marked_of_hexDigit? hc,
    not_marked_of_hexDigit? hd⟩

theorem quotable_of_unit? {quote : Char}
    (h : Scan.Quotable quote ('\\' :: 'u' :: a :: b :: c :: d :: rest))
    (hu : unit? a b c d = some unit) : Scan.Quotable quote rest := by
  have plain := not_marked_of_unit? hu
  simp only [isMarked, Bool.or_eq_false_iff, beq_eq_false_iff_ne] at plain
  obtain ⟨⟨-, ha⟩, ⟨-, hb⟩, ⟨-, hc⟩, -, hd⟩ := plain
  exact ((((h.of_pair.of_cons ha).2.of_cons hb).2.of_cons hc).2.of_cons hd).2

theorem countP_of_unit? (hu : unit? a b c d = some unit) :
    ('\\' :: 'u' :: a :: b :: c :: d :: rest).countP isMarked = rest.countP isMarked + 1 := by
  obtain ⟨ha, hb, hc, hd⟩ := not_marked_of_unit? hu
  have hu : isMarked 'u' = false := by decide
  have hbackslash : isMarked '\\' = true := by decide
  simp [ha, hb, hc, hd, hu, hbackslash]

/-- What stands between quotes is longer than what it stands for, by one for every escape at least;
an escape holds two quotes or backslashes at most, and outside of escapes there are none. -/
theorem length_decode? {text cs : List Char} (h : Scan.Quotable '\'' text)
    (hd : decode? true text = some cs) :
    2 * cs.length + text.countP isMarked ≤ 2 * text.length := by
  fun_induction decode? true text generalizing cs with
  | case1 =>
    cases hd
    simp
  | case2 a b c d rest pairs units =>
    simp only [Option.bind_eq_bind, Option.bind_eq_some_iff] at hd
    obtain ⟨unit, hu, hd⟩ := hd
    have hrest := quotable_of_unit? h hu
    rw [countP_of_unit? hu]
    split at hd
    · split at hd
      next e f g i rest =>
        obtain ⟨low, hlow, hd⟩ := Option.bind_eq_some_iff.1 hd
        split at hd
        · obtain ⟨more, hm, hd⟩ := Option.bind_eq_some_iff.1 hd
          cases hd
          have := pairs (quotable_of_unit? hrest hlow) hm
          rw [countP_of_unit? hlow]
          simp only [List.length_cons]
          omega
        · simp at hd
      · simp at hd
    · split at hd
      · simp at hd
      · obtain ⟨more, hm, hd⟩ := Option.bind_eq_some_iff.1 hd
        cases hd
        have := units hrest hm
        simp only [List.length_cons]
        omega
  | case3 c rest hc ih =>
    simp only [Option.bind_eq_bind, Option.bind_eq_some_iff] at hd
    obtain ⟨e, -, more, hm, hd⟩ := hd
    cases hd
    have := ih h.of_pair hm
    have hmarks : ('\\' :: c :: rest).countP isMarked ≤ rest.countP isMarked + 2 := by
      simp only [List.countP_cons]
      split <;> split <;> omega
    simp only [List.length_cons]
    omega
  | case4 => cases hd
  | case5 c rest _ hpair hlast ih =>
    obtain ⟨more, hm, hd⟩ := Option.bind_eq_some_iff.1 hd
    cases hd
    have hb : c ≠ '\\' := by
      rintro rfl
      cases rest with
      | nil => exact hlast rfl rfl
      | cons d rest => exact hpair d rest rfl rfl
    obtain ⟨hq, hrest⟩ := h.of_cons hb
    have := ih hrest hm
    have hmark : ¬ isMarked c := by simp [isMarked, hb, hq]
    rw [List.countP_cons_of_neg hmark]
    simp only [List.length_cons]
    omega

end

end Escape

theorem escapeName_spelled (c : Char) : Escape.Spelled '\'' c (escapeName c) := by
  unfold escapeName
  split
  · exact .pair (by decide) rfl rfl
  · exact .pair (by decide) rfl rfl
  · next hb hq => exact .plain hb hq

theorem Escape.hexDigit?_digitChar : ∀ d < 16, hexDigit? (Nat.digitChar d) = some d := by
  decide

theorem Json.hexDigits_decoded {c : Char} (hc : c.toNat < 32) :
    ∃ a b, hexDigits c = [a, b] ∧ Escape.unit? '0' '0' a b = some c.toNat ∧
      ∀ x ∈ ['0', '0', a, b], x ≠ '\\' ∧ x ≠ '"' ∧ x ≠ '\x00' := by
  have plain : ∀ d < 16, Nat.digitChar d ≠ '\\' ∧ Nat.digitChar d ≠ '"' ∧
      Nat.digitChar d ≠ '\x00' := by
    decide
  have hhigh : c.toNat / 16 < 16 := by omega
  have hlow : c.toNat % 16 < 16 := by omega
  have hzero : Escape.hexDigit? '0' = some 0 := rfl
  refine ⟨_, _, rfl, ?_, ?_⟩
  · simp only [Escape.unit?, hzero, Escape.hexDigit?_digitChar _ hhigh,
      Escape.hexDigit?_digitChar _ hlow, Option.bind_eq_bind, Option.bind_some]
    exact congrArg some (by omega)
  · intro x hx
    simp only [List.mem_cons, List.not_mem_nil, or_false] at hx
    rcases hx with rfl | rfl | rfl | rfl
    · decide
    · decide
    · exact plain _ hhigh
    · exact plain _ hlow

theorem Json.escape_spelled (c : Char) : Escape.Spelled '"' c (escape c) := by
  unfold escape
  split
  case h_8 hq hb _ _ _ _ _ =>
    split
    next hlt =>
      have hc : c.toNat < 32 := hlt
      obtain ⟨a, b, hab, hu, hx⟩ := hexDigits_decoded hc
      rw [hab]
      exact .number (by omega) hu hx
    · exact .plain hb hq
  all_goals exact .pair (by decide) (by decide) (by decide)

/-! Patterns between slashes -/

/-- Sources of patterns that a text can spell: a backslash takes its character with it, and that
is no slash. -/
inductive Pattern.Source : List Char → Prop where
  | nil : Source []
  | pair {c : Char} {rest : List Char} (hc : c ≠ '/') (h : Source rest) :
      Source ('\\' :: c :: rest)
  | plain {c : Char} {rest : List Char} (hb : c ≠ '\\') (h : Source rest) : Source (c :: rest)

theorem unescapeSlash_pair {c : Char} {rest : List Char} (hc : c ≠ '/') :
    unescapeSlash ('\\' :: c :: rest) = '\\' :: c :: unescapeSlash rest := by
  rw [unescapeSlash]
  exact hc

theorem unescapeSlash_plain {c : Char} {rest : List Char} (hb : c ≠ '\\') :
    unescapeSlash (c :: rest) = c :: unescapeSlash rest := by
  rw [unescapeSlash]
  · intro _ h
    exact absurd h hb
  · intro _ _ h
    exact absurd h hb

/-- What is spelled between slashes is a source. -/
theorem Scan.Slashless.source {raw : List Char} (h : Slashless raw) :
    Pattern.Source (unescapeSlash raw) := by
  induction h with
  | nil => exact .nil
  | @pair c rest _ ih =>
    by_cases hc : c = '/'
    · subst hc
      exact .plain (by decide) ih
    · rw [unescapeSlash_pair hc]
      exact .pair hc ih
  | plain hb _ _ ih =>
    rw [unescapeSlash_plain hb]
    exact .plain hb ih

namespace Pattern

theorem escapeSlash_of_ne {c : Char} (hc : c ≠ '/') : escapeSlash c = [c] := by
  unfold escapeSlash
  split
  · exact absurd rfl hc
  · rfl

/-- A source with its slashes escaped stands between slashes, and is restored. -/
theorem Source.escaped {cs : List Char} (h : Source cs) :
    Scan.Slashless (cs.flatMap escapeSlash) ∧ unescapeSlash (cs.flatMap escapeSlash) = cs := by
  induction h with
  | nil => exact ⟨.nil, rfl⟩
  | @pair c rest hc _ ih =>
    have : ('\\' :: c :: rest).flatMap escapeSlash = '\\' :: c :: rest.flatMap escapeSlash := by
      simp [escapeSlash_of_ne hc, escapeSlash_of_ne (c := '\\') (by decide)]
    rw [this, unescapeSlash_pair hc, ih.2]
    exact ⟨.pair ih.1, rfl⟩
  | @plain c rest hb _ ih =>
    by_cases hc : c = '/'
    · subst hc
      have : ('/' :: rest).flatMap escapeSlash = '\\' :: '/' :: rest.flatMap escapeSlash := by
        simp [escapeSlash]
      rw [this, unescapeSlash, ih.2]
      exact ⟨.pair ih.1, rfl⟩
    · have : (c :: rest).flatMap escapeSlash = c :: rest.flatMap escapeSlash := by
        simp [escapeSlash_of_ne hc]
      rw [this, unescapeSlash_plain hb, ih.2]
      exact ⟨.plain hb hc ih.1, rfl⟩

theorem nul_notMem_flatMap_escapeSlash {cs : List Char} (h : '\x00' ∉ cs) :
    '\x00' ∉ cs.flatMap escapeSlash := by
  intro hm
  obtain ⟨c, hc, hm⟩ := List.mem_flatMap.1 hm
  unfold escapeSlash at hm
  split at hm
  · simp at hm
  · exact h (List.mem_singleton.1 hm ▸ hc)

end Pattern
end PathQuery
