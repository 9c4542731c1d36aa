import PathQuery.Proofs.Query.Grammar
import PathQuery.Proofs.Token.Mark

/-! What the parsers accept, the grammar derives: each leaves a rest behind the tokens it spells. -/
namespace PathQuery
open Token Grammar

theorem mapError_eq_ok {ε ε' α : Type} {x : Except ε α} {f : ε → ε'} {a : α} :
    x.mapError f = .ok a ↔ x = .ok a := by
  cases x <;> simp [Except.mapError]

/-- The tokens before `rest` mean `a`. -/
def Spells {α : Type} (G : List Kind → α → Prop) (ts : List Token) (a : α) (rest : List Token) :
    Prop :=
  ∃ used, ts = used ++ rest ∧ G (used.map Token.kind) a

namespace Spells
variable {α β : Type} {G : List Kind → α → Prop} {H : List Kind → β → Prop}
  {ts rest rest' : List Token} {a : α} {b : β}

theorem shaped (h : Spells G ts a rest) (hs : Shaped ts) : Shaped rest := by
  obtain ⟨used, rfl, -⟩ := h
  intro t ht
  exact hs t (by simp [ht])

/-- What is spelled after a token is spelled with it. -/
theorem cons {u : Token} {more : List Token} (hts : ts = u :: more) (h : Spells G more a rest)
    (f : ∀ ks, G ks a → H (u.kind :: ks) b) : Spells H ts b rest := by
  obtain ⟨used, rfl, hg⟩ := h
  exact ⟨u :: used, hts, f _ hg⟩

theorem cons₂ {u v : Token} {more more' : List Token} (hts : ts = u :: more)
    (hmore : more = v :: more') (h : Spells G more' a rest)
    (f : ∀ ks, G ks a → H (u.kind :: v.kind :: ks) b) : Spells H ts b rest := by
  obtain ⟨used, rfl, hg⟩ := h
  exact ⟨u :: v :: used, by rw [hts, hmore]; rfl, f _ hg⟩

theorem one {u : Token} (hts : ts = u :: rest) (h : G [u.kind] a) : Spells G ts a rest :=
  ⟨[u], hts, h⟩

/-- What is spelled before a token is spelled with it. -/
theorem snoc {v : Token} {left : List Token} (h : Spells G ts a left) (hl : left = v :: rest)
    (f : ∀ ks, G ks a → H (ks ++ [v.kind]) b) : Spells H ts b rest := by
  obtain ⟨used, rfl, hg⟩ := h
  exact ⟨used ++ [v], by simp [hl], by simpa using f _ hg⟩

/-- Two parts spelled one after the other make a whole. -/
theorem append {γ : Type} {K : List Kind → γ → Prop} {c : γ} (h : Spells G ts a rest)
    (h' : Spells H rest b rest') (f : ∀ ks ks', G ks a → H ks' b → K (ks ++ ks') c) :
    Spells K ts c rest' := by
  obtain ⟨used, rfl, hg⟩ := h
  obtain ⟨more, rfl, hh⟩ := h'
  exact ⟨used ++ more, by simp, by simpa using f _ _ hg hh⟩

theorem imp (h : Spells G ts a rest) (f : ∀ ks, G ks a → H ks b) : Spells H ts b rest := by
  obtain ⟨used, rfl, hg⟩ := h
  exact ⟨used, rfl, f _ hg⟩

end Spells

namespace Parser
variable {env : Environment} {n : Nat} {stop : Position} {ts : List Token}

@[simp] theorem locate_eq_ok {α : Type} {p : Position} {x : Except SyntaxError.Cause α} {a : α} :
    locate p x = .ok a ↔ x = .ok a := by
  cases x <;> simp [locate, fail]

@[simp] theorem fail_ne_ok {α : Type} {cause : SyntaxError.Cause} {p : Position} {a : α} :
    (fail cause p : Except SyntaxError α) ≠ .ok a := by
  simp [fail]

theorem literal_of_ofKind {k : Kind} {v : Value} (h : Value.ofKind k = .ok v) : Literal k v := by
  unfold Value.ofKind at h
  split at h
  case h_1 raw =>
    cases hu : unescape raw with
    | ok s => simp [hu, Except.map] at h; subst h; exact .string hu
    | error e => simp [hu, Except.map] at h
  case h_2 | h_3 =>
    split at h
    · cases h
      first | exact .int ‹_› | exact .float ‹_›
    · simp at h
  all_goals cases h <;> constructor

theorem expect_sound {k : Kind} {cause : Kind → SyntaxError.Cause} {t : Taken Unit ts}
    (h : expect k cause stop ts = .ok t) : ∃ u, ts = u :: t.rest ∧ u.kind = k := by
  unfold expect at h
  split at h
  · simp at h
  next u rest =>
    split at h
    next hk => cases h; exact ⟨u, rfl, hk⟩
    · simp at h

theorem close_sound {opened : Token} {t : Taken Unit ts} (h : close opened stop ts = .ok t) :
    ∃ u, ts = u :: t.rest ∧ u.kind = .closeBracket := by
  unfold close at h
  split at h
  · simp at h
  · exact expect_sound h

/-- What is spelled before a closing bracket is spelled with it. -/
theorem spells_closed {α β : Type} {G : List Kind → α → Prop} {H : List Kind → β → Prop} {a : α}
    {b : β} {left : List Token} {opened : Token} {c : Taken Unit left} (h : Spells G ts a left)
    (hc : close opened stop left = .ok c) (f : ∀ ks, G ks a → H (ks ++ [.closeBracket]) b) :
    Spells H ts b c.rest := by
  obtain ⟨v, hleft, hv⟩ := close_sound hc
  apply h.snoc hleft
  rw [hv]
  exact f

theorem literal_sound {t : Taken Value ts} (h : literal stop ts = .ok t) :
    ∃ u, ts = u :: t.rest ∧ Literal u.kind t.value := by
  unfold literal at h
  split at h
  · simp at h
  next u rest =>
    simp only [bind_eq_ok, locate_eq_ok] at h
    obtain ⟨v, hv, h⟩ := h
    cases h
    exact ⟨u, rfl, literal_of_ofKind hv⟩

theorem regex_sound [Pattern.Engine] {t : Taken Pattern ts} (h : regex stop ts = .ok t) :
    ∃ u raw flags, ts = u :: t.rest ∧ u.kind = .regex raw flags ∧
      Pattern.ofRaw raw flags = .ok t.value := by
  unfold regex at h
  split at h
  · simp at h
  next u rest =>
    split at h
    next raw flags hk =>
      simp only [bind_eq_ok, locate_eq_ok] at h
      obtain ⟨p, hp, h⟩ := h
      cases h
      exact ⟨u, raw, flags, rfl, hk, hp⟩
    · simp at h

/-- The kinds between the brackets of an index or a slice, its parts newest first. -/
def partKinds : List (Option Int64) → List Kind
  | [] => []
  | [part] => bound part
  | part :: older => partKinds older ++ .colon :: bound part

theorem partKinds_none (part : Option Int64) (older : List (Option Int64)) :
    partKinds (none :: part :: older) = partKinds (part :: older) ++ [.colon] := by
  simp [partKinds, bound]

theorem partKinds_some (i : Int64) (older : List (Option Int64)) :
    partKinds (some i :: older) = partKinds (none :: older) ++ [.int (indexText i)] := by
  cases older <;> simp [partKinds, bound]

theorem sliceParts_sound {parts : List (Option Int64)} {r : Left (List (Option Int64)) ts}
    (hs : Shaped ts) (hp : parts ≠ []) (h : sliceParts parts ts = .ok r) :
    ∃ used, ts = used ++ r.1.2 ∧ partKinds parts ++ used.map Token.kind = partKinds r.1.1 := by
  induction ts generalizing parts with
  | nil =>
    cases h
    exact ⟨[], by simp, by simp⟩
  | cons t rest ih =>
    have hs' : Shaped rest := fun u hu => hs u (by simp [hu])
    unfold sliceParts at h
    split at h
    case h_1 | h_2 | h_3 =>
      cases h
      exact ⟨[], by simp, by simp⟩
    case h_4 hk =>
      split at h
      · simp at h
      · simp only [bind_eq_ok] at h
        obtain ⟨⟨⟨parts', left⟩, hl⟩, hr, h⟩ := h
        cases h
        obtain ⟨used, hu, hparts⟩ := ih hs' (by simp) hr
        refine ⟨t :: used, by simp [hu], ?_⟩
        rw [← hparts]
        cases parts with
        | nil => exact absurd rfl hp
        | cons part older => simp [partKinds_none, hk]
    case h_5 digits hk =>
      simp only [bind_eq_ok, locate_eq_ok] at h
      obtain ⟨i, hi, h⟩ := h
      have hw : Numeral.Whole digits.toList := by simpa [Token.Kind.Shaped, hk] using hs t (by simp)
      have hd := (Int64.ofDigits_eq_ok_iff hw i).1 hi
      split at h
      next older =>
        simp only [bind_eq_ok] at h
        obtain ⟨⟨⟨parts', left⟩, hl⟩, hr, h⟩ := h
        cases h
        obtain ⟨used, hu, hparts⟩ := ih hs' (by simp) hr
        refine ⟨t :: used, by simp [hu], ?_⟩
        rw [← hparts]
        simp [partKinds_some, hk, hd]
      · simp at h
    case h_6 => simp at h

/-- What stands between the brackets of an index or a slice. -/
inductive Subscript [Pattern.Engine] : List Kind → Segment → Prop where
  | index (i : Int64) : Subscript [.int (indexText i)] (.index i)
  | slice {ks : List Kind} {start stop step : Option Int64} (h : Slice ks start stop step) :
      Subscript ks (.slice start stop step)

theorem Subscript.selection [Pattern.Engine] {ks : List Kind} {s : Segment} (h : Subscript ks s) :
    Selection env n (.openBracket :: (ks ++ [.closeBracket])) s := by
  cases h with
  | index i => exact .index i
  | slice h => exact .slice h

theorem subscript_of_ofParts [Pattern.Engine] {parts : List (Option Int64)} {s : Segment}
    (h : ofParts parts = .ok s) : Subscript (partKinds parts.reverse) s := by
  unfold ofParts at h
  split at h
  · cases h
    exact .index _
  next start stop =>
    cases h
    simpa [partKinds] using Subscript.slice (.two start stop)
  next start stop step =>
    split at h
    · simp at h
    next h0 =>
      cases h
      simpa [partKinds] using Subscript.slice (.three start stop step h0)
  · simp at h

theorem sliceOrIndex_sound [Pattern.Engine] {first : Token} {r : Left Segment ts} (hs : Shaped ts)
    (h : sliceOrIndex first ts = .ok r) : Spells Subscript ts r.1.1 r.1.2 := by
  simp only [sliceOrIndex, bind_eq_ok, locate_eq_ok] at h
  obtain ⟨⟨⟨parts, rest⟩, hl⟩, hp, s, ho, h⟩ := h
  cases h
  obtain ⟨used, hu, hk⟩ := sliceParts_sound hs (by simp) hp
  have hsub := subscript_of_ofParts ho
  simp only [List.reverse_reverse] at hsub
  refine ⟨used, hu, ?_⟩
  rw [show used.map Token.kind = partKinds parts by simpa [partKinds, bound] using hk]
  exact hsub

/-- One name makes a field, and several make a union. -/
theorem selection_of_names [Pattern.Engine] {ks : List Kind} {found : List String}
    (h : Listed Quoted ks found) :
    Selection env n (.openBracket :: (ks ++ [.closeBracket])) (ofNames found) := by
  cases h with
  | one h => exact .name h
  | cons h rest =>
    have hrest := rest
    cases rest with
    | one => exact .names (.cons h hrest) (by simp)
    | cons => exact .names (.cons h hrest) (by simp)

theorem exists_of_peek {k : Kind} (h : peek ts = k) (hk : k ≠ .endOfQuery) :
    ∃ u, ts = u :: ts.tail ∧ u.kind = k := by
  cases ts with
  | nil => exact absurd h.symm hk
  | cons u rest => exact ⟨u, rfl, h⟩

theorem names_sound {t : Taken (List String) ts} (h : names stop ts = .ok t) :
    Spells (Listed Quoted) ts t.value t.rest := by
  fun_induction names stop ts with
  | case1 => simp at h
  | case2 u rest quote raw hk ih =>
    simp only [bind_eq_ok, locate_eq_ok] at h
    obtain ⟨name, hn, h⟩ := h
    have hq : Quoted u.kind name := hk ▸ .mk hn
    split at h
    next hc =>
      simp only [bind_eq_ok] at h
      obtain ⟨others, ho, h⟩ := h
      cases h
      obtain ⟨comma, hr, hcomma⟩ := exists_of_peek hc (by simp)
      have hothers := ih ho
      exact .cons₂ rfl hr hothers fun ks hl => by rw [hcomma]; exact .cons hq hl
    · cases h
      exact .one rfl (.one hq)
  | case3 => simp at h

/-- Literals with commas between them, and the parenthesis that closes a call. -/
inductive Closed : List Kind → List Value → Prop where
  | mk {ks : List Kind} {args : List Value} (h : Listed Literal ks args) :
      Closed (ks ++ [.closeParen]) args

theorem Closed.cons {k : Kind} {ks : List Kind} {arg : Value} {args : List Value}
    (hc : Closed ks args) (h : Literal k arg) : Closed (k :: .comma :: ks) (arg :: args) := by
  obtain ⟨hl⟩ := hc
  exact .mk (.cons h hl)

theorem arguments_sound {callee : Token} {t : Taken (List Value) ts}
    (h : arguments callee stop ts = .ok t) : Spells Closed ts t.value t.rest := by
  fun_induction arguments callee stop ts with
  | case1 ts ih =>
    simp only [bind_eq_ok] at h
    obtain ⟨arg, ha, h⟩ := h
    obtain ⟨u, hts, hu⟩ := literal_sound ha
    split at h
    next hc =>
      simp only [bind_eq_ok] at h
      obtain ⟨others, ho, h⟩ := h
      cases h
      obtain ⟨comma, hr, hcomma⟩ := exists_of_peek hc (by simp)
      have hothers := ih arg ho
      exact .cons₂ hts hr hothers fun ks hl => by rw [hcomma]; exact hl.cons hu
    next hc =>
      cases h
      obtain ⟨paren, hr, hparen⟩ := exists_of_peek hc (by simp)
      refine ⟨[u, paren], hts.trans (congrArg (u :: ·) hr), ?_⟩
      rw [List.map_cons, List.map_cons, hparen]
      exact .mk (.one hu)
    · simp at h
    · simp at h

theorem call_sound [Pattern.Engine] {callee : Token} {name : String} {t : Taken Segment ts}
    (hk : callee.kind = .function name) (h : call env callee name stop ts = .ok t) :
    Spells (fun ks s => Call env (callee.kind :: ks) s) ts t.value t.rest := by
  simp only [call, bind_eq_ok] at h
  obtain ⟨opened, ho, h⟩ := h
  obtain ⟨u, hts, hu⟩ := expect_sound ho
  split at h
  next hc =>
    simp only [bind_eq_ok, locate_eq_ok, mapError_eq_ok] at h
    obtain ⟨args, ha, f, hf, h⟩ := h
    cases ha
    cases h
    obtain ⟨paren, hr, hparen⟩ := exists_of_peek hc (by simp)
    refine ⟨[u, paren], hts.trans (congrArg (u :: ·) hr), ?_⟩
    rw [List.map_cons, List.map_cons, hk, hu, hparen]
    exact .empty hf
  next hc =>
    simp only [bind_eq_ok, locate_eq_ok, mapError_eq_ok] at h
    obtain ⟨found, hfound, args, ha, f, hf, h⟩ := h
    cases ha
    cases h
    have hs := arguments_sound hfound
    apply Spells.cons hts hs
    intro ks hc
    obtain ⟨hl⟩ := hc
    rw [hk, hu]
    exact .args hl hf

/-- What stands in a filter is cut off where its bracket closes, before any end of the query. -/
theorem untilClosed?_sound {depth : Nat} {t : Taken (List Token × Position) ts}
    (h : untilClosed? depth ts = some t) :
    (∃ closing, ts = t.value.1 ++ closing :: t.rest ∧ closing.kind = .closeBracket) ∧
      ∀ u ∈ t.value.1, u.kind ≠ .endOfQuery := by
  induction ts generalizing depth with
  | nil => simp [untilClosed?] at h
  | cons u rest ih =>
    have through {depth : Nat} {r : Taken (List Token × Position) rest}
        (hr : untilClosed? depth rest = some r) (hu : u.kind ≠ .endOfQuery) :
        (∃ closing, u :: rest = (u :: r.value.1) ++ closing :: r.rest ∧
          closing.kind = .closeBracket) ∧ ∀ v ∈ u :: r.value.1, v.kind ≠ .endOfQuery := by
      obtain ⟨⟨closing, hrest, hk⟩, hend⟩ := ih hr
      exact ⟨⟨closing, congrArg (u :: ·) hrest, hk⟩, List.forall_mem_cons.2 ⟨hu, hend⟩⟩
    unfold untilClosed? at h
    split at h
    case h_1 => simp at h
    case h_3 hk =>
      cases h
      exact ⟨⟨u, rfl, hk⟩, by simp⟩
    case h_2 hk | h_4 hk =>
      obtain ⟨r, hr, rfl⟩ := Option.map_eq_some_iff.1 h
      exact through hr (by simp [hk])
    case h_5 hk _ _ _ =>
      obtain ⟨r, hr, rfl⟩ := Option.map_eq_some_iff.1 h
      exact through hr hk

variable [Pattern.Engine] {inner : Option Level}

/-- What a level accepts, the grammar derives with the levels that are left below. -/
structure Sound (env : Environment) (l : Level) (n : Nat) : Prop where
  disjunction : ∀ stop ts t, Shaped ts → l.disjunction stop ts = .ok t →
    Spells (Disjunction env n) ts t.value t.rest
  atom : ∀ stop ts t, Shaped ts → l.atom stop ts = .ok t → Spells (Atom env n) ts t.value t.rest

/-- One level down there is one level less. -/
def SoundBelow (env : Environment) (inner : Option Level) (n : Nat) : Prop :=
  ∀ l, inner = some l → ∃ m, n = m + 1 ∧ Sound env l m

theorem nested_eq_ok {p : Position} {l : Level} : nested inner p = .ok l ↔ inner = some l := by
  cases inner <;> simp [nested]

theorem whole_sound {p : Parser Predicate} {q : Predicate} (h : whole p stop ts = .ok q) :
    ∃ t, p stop ts = .ok t ∧ q = t.value ∧ peek t.rest = .endOfQuery := by
  simp only [whole, bind_eq_ok] at h
  obtain ⟨t, ht, h⟩ := h
  split at h
  next hk =>
    cases h
    exact ⟨t, ht, rfl, hk⟩
  · simp at h

section
variable (below : SoundBelow env inner n)
include below

/-- A filter after its question mark. -/
theorem filter_sound {question : Token} {t : Taken Segment ts} (hs : Shaped ts)
    (h : filter inner question ts = .ok t) :
    Spells (fun ks s => Selection env n (.openBracket :: .question :: ks) s) ts t.value t.rest := by
  unfold filter at h
  split at h
  · simp at h
  next cut hcut =>
    obtain ⟨⟨closing, hts, hclosing⟩, hend⟩ := untilClosed?_sound hcut
    split at h
    next body place hcv =>
      rw [hcv] at hts hend
      split at h
      · simp [fail, bind, Except.bind] at h
      · simp only [bind_eq_ok, nested_eq_ok] at h
        obtain ⟨level, hl, p, hp, h⟩ := h
        cases h
        obtain ⟨m, rfl, sound⟩ := below level hl
        obtain ⟨t, ht, rfl, hpeek⟩ := whole_sound hp
        have hbody : Shaped body := fun u hu => hs u (by rw [hts]; simp [hu])
        obtain ⟨used, hu, hd⟩ := sound.disjunction _ _ _ hbody ht
        -- No end of the query stands inside the brackets, so the body is used up.
        have hrest : t.rest = [] := by
          cases hr : t.rest with
          | nil => rfl
          | cons e more =>
            rw [hr] at hpeek
            exact absurd hpeek (hend e (by rw [hu, hr]; simp))
        have hbu : body = used := hu.trans (by rw [hrest, List.append_nil])
        have hused := hts.trans (congrArg (· ++ closing :: cut.rest) hbu)
        refine ⟨used ++ [closing], hused.trans (by simp), ?_⟩
        simpa [hclosing] using Selection.filter hd

/-- A bracketed selection after its opening bracket. -/
theorem brackets_sound {opened : Token} {t : Taken Segment ts} (hs : Shaped ts)
    (h : brackets env inner opened stop ts = .ok t) :
    Spells (fun ks s => Selection env n (.openBracket :: ks) s) ts t.value t.rest := by
  unfold brackets at h
  split at h
  · simp at h
  next u rest =>
    split at h
    case h_1 hk =>
      simp only [bind_eq_ok] at h
      obtain ⟨c, hc, h⟩ := h
      cases h
      obtain ⟨v, hr, hv⟩ := close_sound hc
      refine ⟨[u, v], congrArg (u :: ·) hr, ?_⟩
      simpa [hk, hv] using Selection.wild
    case h_2 | h_3 =>
      simp only [bind_eq_ok] at h
      obtain ⟨⟨⟨s, left⟩, hl⟩, hr, c, hc, h⟩ := h
      cases h
      exact spells_closed (sliceOrIndex_sound hs hr) hc fun _ hg => hg.selection
    case h_4 =>
      simp only [bind_eq_ok] at h
      obtain ⟨found, hf, c, hc, h⟩ := h
      cases h
      exact spells_closed (names_sound hf) hc fun _ hg => selection_of_names hg
    case h_5 name hk =>
      simp only [bind_eq_ok] at h
      obtain ⟨found, hf, c, hc, h⟩ := h
      cases h
      have hsel : Spells (fun ks s => Selection env n (.openBracket :: u.kind :: ks) s) rest
          found.value c.rest := spells_closed (call_sound hk hf) hc fun _ hg => .call hg
      exact .cons rfl hsel fun _ hg => hg
    case h_6 hk =>
      simp only [bind_eq_ok] at h
      obtain ⟨s, hf, h⟩ := h
      cases h
      have hfilter := filter_sound below (fun u hu => hs u (by simp [hu])) hf
      apply Spells.cons rfl hfilter
      intro ks hsel
      rw [hk]
      exact hsel
    all_goals simp at h

theorem descendant_sound {t : Taken Segment ts} (hs : Shaped ts)
    (h : descendant env inner stop ts = .ok t) :
    Spells (Descendant env n) ts t.value t.rest := by
  unfold descendant at h
  split at h
  · simp at h
  next u rest =>
    split at h
    next hk =>
      simp only [bind_eq_ok] at h
      obtain ⟨s, hb, h⟩ := h
      cases h
      have hsel := brackets_sound below (fun u hu => hs u (by simp [hu])) hb
      exact .cons rfl hsel fun ks hg => hk ▸ .selection hg
    next name hk =>
      cases h
      exact .one rfl (hk ▸ .bare (.name name))
    next hk =>
      cases h
      exact .one rfl (hk ▸ .bare .wild)
    · simp at h

omit below in
theorem shorthand_sound {t : Taken Segment ts} (h : shorthand env stop ts = .ok t) :
    Spells (Shorthand env) ts t.value t.rest := by
  unfold shorthand at h
  split at h
  · simp at h
  next u rest =>
    split at h
    next name hk =>
      simp only [bind_eq_ok] at h
      obtain ⟨s, hc, h⟩ := h
      cases h
      have hcall := call_sound hk hc
      exact .cons rfl hcall fun ks hg => .call hg
    next name hk =>
      cases h
      exact .one rfl (hk ▸ .bare (.name name))
    next hk =>
      cases h
      exact .one rfl (hk ▸ .bare .wild)
    · simp at h

theorem segments_sound {r : Left (List Segment) ts} (hs : Shaped ts)
    (h : segments env inner stop ts = .ok r) : Spells (Path env n) ts r.1.1 r.1.2 := by
  fun_induction segments env inner stop ts with
  | case1 => cases h; exact ⟨[], rfl, .nil⟩
  | case2 u rest hk ih =>
    simp only [bind_eq_ok] at h
    obtain ⟨s, hd, ⟨⟨more, left⟩, hl⟩, hm, h⟩ := h
    cases h
    have hs' : Shaped rest := fun v hv => hs v (by simp [hv])
    have hdesc := descendant_sound below hs' hd
    have hpath := ih s (hdesc.shaped hs') hm
    have hboth : Spells (fun ks path => Path env n (u.kind :: ks) path) rest
        (.recursive :: s.value :: more) left :=
      hdesc.append hpath fun ks ks' hg hg' => hk ▸ .descendant hg hg'
    exact .cons rfl hboth fun _ hg => hg
  | case3 u rest hk ih =>
    simp only [bind_eq_ok] at h
    obtain ⟨s, hd, ⟨⟨more, left⟩, hl⟩, hm, h⟩ := h
    cases h
    have hshort := shorthand_sound hd
    have hpath := ih s (hshort.shaped fun v hv => hs v (by simp [hv])) hm
    have hboth : Spells (fun ks path => Path env n (u.kind :: ks) path) rest
        (s.value :: more) left :=
      hshort.append hpath fun ks ks' hg hg' => hk ▸ .shorthand hg hg'
    exact .cons rfl hboth fun _ hg => hg
  | case4 u rest hk ih =>
    simp only [bind_eq_ok] at h
    obtain ⟨s, hd, ⟨⟨more, left⟩, hl⟩, hm, h⟩ := h
    cases h
    have hs' : Shaped rest := fun v hv => hs v (by simp [hv])
    have hsel := brackets_sound below hs' hd
    have hpath := ih s (hsel.shaped hs') hm
    have hboth : Spells (fun ks path => Path env n (u.kind :: ks) path) rest
        (s.value :: more) left :=
      hsel.append hpath fun ks ks' hg hg' => hk ▸ .selection hg hg'
    exact .cons rfl hboth fun _ hg => hg
  | case5 u rest => cases h; exact ⟨[], rfl, .nil⟩

/-- What a path after the anchor `a` begins. -/
theorem test_sound {a : Anchor} {r : Left Predicate ts} (hs : Shaped ts)
    (h : test env inner a stop ts = .ok r) :
    Spells (fun ks p => Atom env n (Grammar.place a :: ks) p) ts r.1.1 r.1.2 := by
  simp only [test, bind_eq_ok] at h
  obtain ⟨⟨⟨path, left⟩, hl⟩, hm, h⟩ := h
  have hpath := segments_sound below hs hm
  split at h
  next op hk =>
    simp only [bind_eq_ok] at h
    obtain ⟨v, hv, h⟩ := h
    cases h
    obtain ⟨c, hleft, hc⟩ := exists_of_peek hk (by simp)
    obtain ⟨u, htail, hu⟩ := literal_sound hv
    have hop : Spells (fun ks _ => ks = [.compare op, u.kind]) left () v.rest :=
      ⟨[c, u], hleft.trans (congrArg (c :: ·) htail), by simp [hc]⟩
    exact hpath.append hop fun ks ks' hg hg' => hg' ▸ .compare a op hg hu
  next hk =>
    simp only [bind_eq_ok] at h
    obtain ⟨pattern, hp, h⟩ := h
    cases h
    obtain ⟨c, hleft, hc⟩ := exists_of_peek hk (by simp)
    obtain ⟨u, raw, flags, htail, hu, hcompiles⟩ := regex_sound hp
    have hop : Spells (fun ks _ => ks = [.tilde, .regex raw flags]) left () pattern.rest :=
      ⟨[c, u], hleft.trans (congrArg (c :: ·) htail), by simp [hc, hu]⟩
    exact hpath.append hop fun ks ks' hg hg' => hg' ▸ .resembles a hg hcompiles
  · cases h
    exact hpath.imp fun ks hg => .present a hg

omit [Pattern.Engine] in
omit below in
theorem anchor?_eq_some {k : Kind} {a : Anchor} (h : anchor? k = some a) :
    k = Grammar.place a := by
  unfold anchor? at h
  split at h
  · cases h
    rfl
  · cases h
    rfl
  · simp at h

/-- What the literal `first` begins. -/
theorem flipped_sound {v : Value} {first : Token} {t : Taken Predicate ts} (hs : Shaped ts)
    (hv : Literal first.kind v) (h : flipped env inner v first stop ts = .ok t) :
    Spells (fun ks p => Atom env n (first.kind :: ks) p) ts t.value t.rest := by
  unfold flipped at h
  split at h
  · simp at h
  next c rest =>
    split at h
    next op hc =>
      split at h
      · simp at h
      next u after =>
        split at h
        next a ha =>
          simp only [bind_eq_ok] at h
          obtain ⟨⟨⟨path, left⟩, hl⟩, hm, h⟩ := h
          cases h
          have hpath := segments_sound below (fun v hv => hs v (by simp [hv])) hm
          refine .cons₂ rfl rfl hpath ?_
          intro ks hg
          rw [hc, anchor?_eq_some ha]
          exact .flipped a op hv hg
        · simp at h
    · simp at h

theorem atom_sound {t : Taken Predicate ts} (hs : Shaped ts)
    (h : atom env inner stop ts = .ok t) : Spells (Atom env n) ts t.value t.rest := by
  unfold atom at h
  split at h
  · simp at h
  next u rest =>
    have hs' : Shaped rest := fun v hv => hs v (by simp [hv])
    split at h
    case h_1 hk =>
      simp only [bind_eq_ok, nested_eq_ok] at h
      obtain ⟨l, hl, p, hp, c, hc, h⟩ := h
      cases h
      obtain ⟨m, rfl, sound⟩ := below l hl
      have hd := sound.disjunction _ _ _ hs' hp
      obtain ⟨v, hrest, hv⟩ := expect_sound hc
      have hparen : Spells (fun ks p => Atom env (m + 1) (.openParen :: ks) p) rest p.value
          c.rest := hd.snoc hrest fun ks hg => by rw [hv]; exact .paren hg
      exact .cons rfl hparen fun ks hg => hk ▸ hg
    case h_2 hk =>
      simp only [bind_eq_ok, nested_eq_ok] at h
      obtain ⟨l, hl, p, hp, h⟩ := h
      cases h
      obtain ⟨m, rfl, sound⟩ := below l hl
      have ha := sound.atom _ _ _ hs' hp
      exact .cons rfl ha fun ks hg => hk ▸ .not hg
    case h_3 hk | h_4 hk =>
      simp only [bind_eq_ok] at h
      obtain ⟨⟨⟨p, left⟩, hl⟩, hp, h⟩ := h
      cases h
      have htest := test_sound below hs' hp
      exact .cons rfl htest fun ks hg => hk ▸ hg
    case h_11 | h_12 | h_13 => simp at h
    all_goals
      simp only [bind_eq_ok, locate_eq_ok] at h
      obtain ⟨v, hv, p, hp, h⟩ := h
      cases h
      have hflip := flipped_sound below hs' (literal_of_ofKind hv) hp
      exact .cons rfl hflip fun _ hg => hg

end

omit [Pattern.Engine] in
theorem append_eq_append {used used' middle rest : List Token} (h : middle = used' ++ rest) :
    used ++ middle = (used ++ used') ++ rest := by
  rw [h, List.append_assoc]

section
variable {operator : Kind} {connective : Connective} {operand : Parser Predicate}
  {Operand : List Kind → Predicate → Prop}
  (sound : ∀ stop ts t, Shaped ts → operand stop ts = .ok t → Spells Operand ts t.value t.rest)
include sound

theorem chain_sound {left : Predicate} {r : Left Predicate ts} {front : List Kind}
    (hs : Shaped ts) (hl : Chained operator connective Operand front left)
    (h : chain operator connective operand left stop ts = .ok r) :
    Spells (fun ks p => Chained operator connective Operand (front ++ ks) p) ts r.1.1 r.1.2 := by
  fun_induction chain operator connective operand left stop ts generalizing front with
  | case1 => cases h; exact ⟨[], rfl, by simpa using hl⟩
  | case2 left u rest hk ih =>
    simp only [bind_eq_ok] at h
    obtain ⟨right, hr, ⟨⟨p, left'⟩, hl'⟩, hm, h⟩ := h
    cases h
    have hs' : Shaped rest := fun v hv => hs v (by simp [hv])
    have hright := sound _ _ _ hs' hr
    have hs'' := hright.shaped hs'
    obtain ⟨used, hu, ho⟩ := hright
    obtain ⟨used', hu', hc⟩ := ih right hs'' (hl.more ho) hm
    have hrest := hu.trans (append_eq_append hu')
    refine ⟨u :: (used ++ used'), congrArg (u :: ·) hrest, ?_⟩
    simpa [hk] using hc
  | case3 => cases h; exact ⟨[], rfl, by simpa using hl⟩

theorem chained_sound {t : Taken Predicate ts} (hs : Shaped ts)
    (h : chained operator connective operand stop ts = .ok t) :
    Spells (Chained operator connective Operand) ts t.value t.rest := by
  simp only [chained, bind_eq_ok] at h
  obtain ⟨first, hf, ⟨⟨p, left⟩, hl⟩, hc, h⟩ := h
  cases h
  have hfirst := sound _ _ _ hs hf
  have hs' := hfirst.shaped hs
  obtain ⟨used, hu, ho⟩ := hfirst
  obtain ⟨used', hu', hchain⟩ := chain_sound sound hs' (.one ho) hc
  exact ⟨used ++ used', hu.trans (append_eq_append hu'), by simpa using hchain⟩

end

theorem conjunction_sound (below : SoundBelow env inner n) {t : Taken Predicate ts}
    (hs : Shaped ts) (h : conjunction env inner stop ts = .ok t) :
    Spells (Conjunction env n) ts t.value t.rest := by
  have chain := chained_sound (fun _ _ _ hs h => atom_sound below hs h) hs h
  exact chain.imp fun _ hc => conjunction_of_chained hc

theorem disjunction_sound (below : SoundBelow env inner n) {t : Taken Predicate ts}
    (hs : Shaped ts) (h : disjunction env inner stop ts = .ok t) :
    Spells (Disjunction env n) ts t.value t.rest := by
  have chain := chained_sound (fun _ _ _ hs h => conjunction_sound below hs h) hs h
  exact chain.imp fun _ hc => disjunction_of_chained hc

theorem level_sound (env : Environment) (n : Nat) : SoundBelow env (level env n) n := by
  induction n with
  | zero => simp [SoundBelow, level]
  | succ n ih =>
    intro l hl
    cases hl
    exact ⟨n, rfl, fun _ _ _ hs h => disjunction_sound ih hs h,
      fun _ _ _ hs h => atom_sound ih hs h⟩

end Parser

/-- An accepted list begins with the tokens of a query, up to its end or the end of the query. -/
theorem Query.ofTokens_sound [Pattern.Engine] {env : Environment} {ts : List Token} {q : Query}
    (hs : Shaped ts) (h : ofTokens env ts = .ok q) :
    ∃ used rest, ts = used ++ rest ∧ Parser.peek rest = .endOfQuery ∧
      Text env (used.map Token.kind) q := by
  simp only [ofTokens, bind_eq_ok] at h
  obtain ⟨root, hr, ⟨⟨path, left⟩, hl⟩, hp, h⟩ := h
  obtain ⟨u, hts, hu⟩ := Parser.expect_sound hr
  have hs' : Shaped root.rest := fun v hv => hs v (by rw [hts]; simp [hv])
  obtain ⟨used, hrest, hpath⟩ := Parser.segments_sound (Parser.level_sound env _) hs' hp
  split at h
  next hk =>
    cases h
    refine ⟨u :: used, left, hts.trans (congrArg (u :: ·) hrest), hk, ?_⟩
    rw [List.map_cons, hu]
    exact .root hpath
  · simp at h

end PathQuery
