import Mathlib.Data.String.Basic
import PathQuery.Proofs.Token.Place

/-! The tokens of a text tile it: each is the piece of the text at its span, and between them stand
only blanks. -/
namespace PathQuery
open Token Scan
open String (utf8Len)

/-- The place behind a text: its line feeds count the lines, and the characters after the last of
them the columns. -/
def Position.after (text : List Char) : Position :=
  ⟨text.count '\n' + 1, (text.reverse.takeWhile (· ≠ '\n')).length + 1⟩

theorem Position.advance_after (text : List Char) (c : Char) :
    (Position.after text).advance c = Position.after (text ++ [c]) := by
  unfold advance
  split
  next hc => simp [after, hc]
  next hc => simp [after, hc]

/-- The last token of a text: its end, or what is wrong with it. -/
def Token.Kind.Ends : Kind → Prop
  | .endOfQuery | .invalid _ => True
  | _ => False

namespace Token

/-- The token is what follows this much of a text. -/
structure Behind (t : Token) (before : List Char) : Prop where
  start : t.start = utf8Len before
  stop : t.stop = utf8Len (before ++ t.lexeme.toList)
  position : t.position = .after before

/-- The token is a piece of the text: its span holds its lexeme and begins at its position. -/
def Piece (t : Token) (text : List Char) : Prop :=
  ∃ before after, text = before ++ t.lexeme.toList ++ after ∧ t.Behind before

/-- A token with text, and more tokens after it. -/
def Inner (t : Token) : Prop := ¬ t.kind.Ends ∧ t.start < t.stop

end Token

theorem Place.ends_iff {p q : Place} {filters filters' : Nat} {k : Kind}
    (h : p.after? filters k = some (q, filters')) : k.Ends ↔ q = .ended := by
  rw [← ended_iff h]
  cases k with
  | invalid cause => exact absurd rfl (ne_invalid h cause)
  | endOfQuery => simp [Kind.Ends]
  | _ => simp [Kind.Ends]

/-- A text cut into blanks and tokens, the newest token first. -/
inductive Laid : List Char → List Token → Prop where
  | nil : Laid [] []
  | blank {text : List Char} {ts : List Token} {c : Char} (h : Laid text ts)
      (hc : isBlank c = true) : Laid (text ++ [c]) ts
  | token {text : List Char} {ts : List Token} {t : Token} (h : Laid text ts)
      (ht : t.Behind text) : Laid (text ++ t.lexeme.toList) (t :: ts)

namespace Laid
variable {text before after : List Char} {ts : List Token} {c : Char}

theorem blanks {blanks : List Char} (h : Laid text ts) (hb : ∀ c ∈ blanks, isBlank c = true) :
    Laid (text ++ blanks) ts := by
  induction blanks generalizing text with
  | nil => simpa using h
  | cons c blanks ih =>
    rw [List.append_cons]
    exact ih (h.blank (hb c (by simp))) fun d hd => hb d (by simp [hd])

theorem piece (h : Laid text ts) : ∀ t ∈ ts, t.Piece text := by
  induction h with
  | nil => simp
  | @blank text ts c h hc ih =>
    intro t ht
    obtain ⟨before, after, htext, hb⟩ := ih t ht
    exact ⟨before, after ++ [c], by simp [htext], hb⟩
  | @token text ts u h hu ih =>
    intro t ht
    rcases List.mem_cons.1 ht with rfl | ht
    · exact ⟨text, [], by simp, hu⟩
    · obtain ⟨before, after, htext, hb⟩ := ih t ht
      exact ⟨before, after ++ u.lexeme.toList, by simp [htext], hb⟩

theorem stop_le (h : Laid text ts) : ∀ t ∈ ts, t.stop ≤ utf8Len text := by
  intro t ht
  obtain ⟨before, after, rfl, hb⟩ := h.piece t ht
  rw [hb.stop, String.utf8Len_append _ after]
  omega

/-- No token begins before an older one stops. -/
theorem ordered (h : Laid text ts) : ts.Pairwise fun b a => a.stop ≤ b.start := by
  induction h with
  | nil => exact .nil
  | blank h hc ih => exact ih
  | token h ht ih =>
    refine .cons ?_ ih
    intro a ha
    rw [ht.start]
    exact h.stop_le a ha

/-- A character that is in no token is a blank. -/
theorem isBlank_of_notMem (h : Laid text ts) (htext : text = before ++ c :: after)
    (hout : ∀ t ∈ ts, ¬ (t.start ≤ utf8Len before ∧ utf8Len before < t.stop)) :
    isBlank c = true := by
  induction h generalizing after with
  | nil => simp at htext
  | @blank text ts d h hd ih =>
    rcases List.eq_nil_or_concat after with rfl | ⟨more, e, rfl⟩
    · obtain ⟨-, hdc⟩ := List.append_inj' htext rfl
      cases hdc
      exact hd
    · rw [List.concat_eq_append, ← List.cons_append, ← List.append_assoc] at htext
      obtain ⟨htext, -⟩ := List.append_inj' htext rfl
      exact ih htext hout
  | @token text ts u h hu ih =>
    have hold : ∀ t ∈ ts, ¬ (t.start ≤ utf8Len before ∧ utf8Len before < t.stop) :=
      fun t ht => hout t (by simp [ht])
    -- The character cannot be in the newest token, so it is in the text before that.
    have hnew : ∀ front, before ≠ text ++ front ∨ u.lexeme.toList ≠ front ++ c :: after := by
      intro front
      by_contra hin
      simp only [not_or, not_not] at hin
      apply hout u (by simp)
      have := Char.utf8Size_pos c
      rw [hu.start, hu.stop, hin.1, hin.2]
      simp only [String.utf8Len_append, String.utf8Len_cons]
      omega
    rcases List.append_eq_append_iff.1 htext with ⟨front, hb, hl⟩ | ⟨back, hb, hl⟩
    · rcases hnew front with hne | hne
      · exact absurd hb hne
      · exact absurd hl hne
    · cases back with
      | nil =>
        rcases hnew [] with hne | hne
        · exact absurd (by simpa using hb.symm) hne
        · exact absurd (by simpa using hl.symm) hne
      | cons d back =>
        cases hl
        exact ih hb hold

end Laid

namespace Lexer

/-- The cursor stands between the text behind it and the text ahead. -/
structure Cursor.Between (c : Cursor) (behind ahead : List Char) : Prop where
  rest : c.rest = ahead
  offset : c.offset = utf8Len behind
  position : c.position = .after behind

theorem Cursor.toList_lexeme_token (c : Cursor) (kind : Kind) (length : Nat) :
    (c.token kind length).lexeme.toList = c.rest.take length :=
  String.toList_ofList

namespace Cursor.Between
variable {c : Cursor} {behind ahead : List Char}

theorem next (h : c.Between behind ahead) :
    c.next.Between (behind ++ ahead.take 1) (ahead.drop 1) := by
  unfold Cursor.next
  split
  next hrest =>
    have : ahead = [] := h.rest.symm.trans hrest
    simpa [this] using h
  next char rest hrest =>
    have : ahead = char :: rest := h.rest.symm.trans hrest
    subst this
    refine ⟨rfl, ?_, ?_⟩
    · simp [h.offset]
    · simp [h.position, Position.advance_after]

theorem advance (h : c.Between behind ahead) (n : Nat) :
    (c.advance n).Between (behind ++ ahead.take n) (ahead.drop n) := by
  induction n generalizing c behind ahead with
  | zero =>
    show c.Between _ _
    simpa using h
  | succ n ih =>
    have := ih h.next
    rw [List.append_assoc, List.drop_drop, ← List.take_add, Nat.add_comm] at this
    exact this

theorem token (h : c.Between behind ahead) (kind : Kind) (length : Nat) :
    (c.token kind length).Behind behind := by
  refine ⟨h.offset, ?_, h.position⟩
  rw [toList_lexeme_token, h.rest]
  exact (h.advance length).offset

/-- A token that uses up text has a span. -/
theorem token_lt (h : c.Between behind ahead) (kind : Kind) {length : Nat} (hl : 0 < length)
    (ha : 0 < ahead.length) : (c.token kind length).start < (c.token kind length).stop := by
  have hb := h.token kind length
  have hlex : (c.token kind length).lexeme.toList ≠ [] := by
    rw [toList_lexeme_token, h.rest]
    intro hnil
    have := congrArg List.length hnil
    rw [List.length_take, List.length_nil] at this
    omega
  have hpos : utf8Len (c.token kind length).lexeme.toList ≠ 0 := by
    rw [Ne, String.utf8Len_eq_zero]
    exact hlex
  rw [hb.start, hb.stop, String.utf8Len_append]
  omega

end Cursor.Between

namespace Machine
variable {m : Machine} {text : List Char}

/-- The tokens made so far tile the text behind the lexer. -/
def Covers (m : Machine) (text : List Char) : Prop :=
  ∃ behind ahead, text = behind ++ ahead ∧ Laid behind m.tokens ∧
    (m.mode = .failed ∨ m.cursor.Between behind ahead)

/-- Only a lexer that has ended has made the last token. -/
def Closes (m : Machine) (text : List Char) : Prop :=
  if m.mode.isFinal then
    ∃ last older, m.tokens = last :: older ∧ last.kind.Ends ∧ (∀ t ∈ older, t.Inner) ∧
      (last.kind = .endOfQuery → last.start = utf8Len text ∧ last.stop = last.start)
  else ∀ t ∈ m.tokens, t.Inner

/-- The lexer has tiled the text up to its place in it. -/
structure Tiles (m : Machine) (text : List Char) : Prop where
  sound : m.Sound
  covers : m.Covers text
  closes : m.Closes text
  stands : m.mode ≠ .failed → ∃ p, m.Stands p

theorem Covers.skipBlank (h : m.Covers text) (hf : m.mode ≠ .failed) :
    ∃ behind, text = behind ++ m.cursor.skipBlank.rest ∧ Laid behind m.tokens ∧
      m.cursor.skipBlank.Between behind m.cursor.skipBlank.rest := by
  obtain ⟨behind, ahead, rfl, hl, hc⟩ := h
  have hc := hc.resolve_left hf
  obtain rfl := hc.rest
  have hskip := hc.advance (m.cursor.rest.takeWhile isBlank).length
  rw [take_takeWhile] at hskip
  refine ⟨behind ++ m.cursor.rest.takeWhile isBlank, ?_, ?_, rfl, hskip.offset, hskip.position⟩
  · rw [Cursor.rest_skipBlank, List.append_assoc, List.takeWhile_append_dropWhile]
  · exact hl.blanks fun c hc => List.mem_takeWhile_imp hc

theorem step_tiles (h : m.Tiles text) : m.step.Tiles text := by
  cases hf : m.mode.isFinal with
  | true =>
    have hstep : m.step = m := by simp [step, hf]
    rwa [hstep]
  | false =>
    have hnf : m.mode ≠ .failed := by
      rintro hm
      simp [hm, Mode.isFinal] at hf
    obtain ⟨behind, htext, hl, hc⟩ := h.covers.skipBlank hnf
    obtain ⟨p, hp⟩ := h.stands hnf
    have hinner : ∀ t ∈ m.tokens, t.Inner := by
      have := h.closes
      rwa [Closes, hf] at this
    have hsound := step_sound h.sound
    have ha := h.sound.action_sound hf
    have hq := hp.action_follows hf
    unfold step at hsound ⊢
    rw [if_neg (by simp [hf])] at hsound ⊢
    dsimp only at hsound ⊢
    split at hsound
    next kind length next parens hk =>
      rw [hk] at ha hq
      obtain ⟨-, hnext, hlen⟩ := ha
      obtain ⟨-, hend, q, hafter, hs⟩ := hq
      have hlaid := hl.token (hc.token kind length)
      have hcursor := hc.advance length
      rw [← Cursor.rest_advance] at hs
      rw [Cursor.toList_lexeme_token] at hlaid
      refine ⟨hsound, ⟨_, _, ?_, hlaid, .inr hcursor⟩, ?_, fun _ => ⟨q, hs⟩⟩
      · rw [List.append_assoc, List.take_append_drop]
        exact htext
      · unfold Closes
        have hends : kind.Ends ↔ next.isFinal = true :=
          (Place.ends_iff hafter).trans hs.isFinal_iff.symm
        split
        next hfinal =>
          refine ⟨_, _, rfl, hends.2 hfinal, hinner, ?_⟩
          rintro (hkind : kind = .endOfQuery)
          obtain ⟨hnil, rfl⟩ := hend hkind
          refine ⟨?_, rfl⟩
          rw [(hc.token kind 0).start, htext, hnil, List.append_nil]
        next hfinal =>
          intro t ht
          rcases List.mem_cons.1 ht with rfl | ht
          · refine ⟨fun hkind => hfinal (hends.1 hkind), ?_⟩
            rcases hlen with rfl | ⟨hlen, hrest⟩
            · simp [Mode.isFinal] at hfinal
            · exact hc.token_lt kind hlen hrest
          · exact hinner t ht
    next next hk =>
      rw [hk] at hq
      refine ⟨hsound, ⟨behind, _, htext, hl, .inr hc⟩, ?_, fun _ => ⟨p, hq⟩⟩
      have hnext : next.isFinal = false := by
        have hp' := hp.isFinal_iff
        rw [hf] at hp'
        exact Bool.eq_false_iff.2 fun hn => by simp [hq.isFinal_iff.1 hn] at hp'
      unfold Closes
      rw [if_neg (by simp [hnext])]
      exact hinner
    next cause length hk =>
      have hlaid := hl.token (hc.token (.invalid cause) length)
      rw [Cursor.toList_lexeme_token] at hlaid
      refine ⟨hsound, ⟨_, m.cursor.skipBlank.rest.drop length, ?_, hlaid, .inl rfl⟩, ?_, ?_⟩
      · rw [List.append_assoc, List.take_append_drop]
        exact htext
      · exact ⟨_, _, rfl, trivial, hinner, by simp [Cursor.token]⟩
      · exact fun hm => absurd rfl hm

theorem run_tiles (h : m.Tiles text) (fuel : Nat) : (m.run fuel).Tiles text := by
  induction fuel generalizing m with
  | zero => exact h
  | succ fuel ih =>
    rw [run_succ]
    exact ih (step_tiles h)

end Machine

theorem start_tiles (text : String) : (start text).Tiles (visible text) where
  sound := start_sound text
  covers := ⟨[], visible text, rfl, .nil, .inr ⟨rfl, rfl, rfl⟩⟩
  closes := by simp [Machine.Closes, start, Mode.isFinal]
  stands := fun _ => ⟨.start, .start⟩

theorem tokenize_ne_nil (text : String) : tokenize text ≠ [] := by
  have h := Machine.run_tiles (start_tiles text) (2 * (visible text).length + 2)
  have hcloses := h.closes
  rw [Machine.Closes, if_pos (start_run_isFinal text)] at hcloses
  obtain ⟨last, older, htokens, -⟩ := hcloses
  simp [tokenize_eq_run, htokens]

/-- Where no token is invalid, the last one and no other is the end of the query. -/
theorem exists_front_of_lex {text : String} {ts : List Token} (hl : lex text = .ok ts) :
    ∃ front last, ts = front ++ [last] ∧ last.kind = .endOfQuery ∧
      ∀ t ∈ front, t.kind ≠ .endOfQuery := by
  have h := Machine.run_tiles (start_tiles text) (2 * (visible text).length + 2)
  have hcloses := h.closes
  rw [Machine.Closes, if_pos (start_run_isFinal text)] at hcloses
  obtain ⟨last, older, htokens, hlast, holder, -⟩ := hcloses
  obtain ⟨hts, hvalid⟩ := lex_eq_ok_iff.1 hl
  rw [tokenize_eq_run, htokens, List.reverse_cons] at hts
  refine ⟨older.reverse, last, hts.symm, ?_, ?_⟩
  · have hv := hvalid last (by simp [← hts])
    cases hk : last.kind with
    | endOfQuery => rfl
    | invalid cause => exact absurd hk (hv cause)
    | _ =>
      rw [hk] at hlast
      exact hlast.elim
  · intro t ht hk
    apply (holder t (List.mem_reverse.1 ht)).1
    rw [hk]
    trivial

theorem piece_of_mem_tokenize {text : String} {t : Token} (ht : t ∈ tokenize text) :
    t.Piece text.toList := by
  rw [tokenize_eq_run] at ht
  have h := Machine.run_tiles (start_tiles text) (2 * (visible text).length + 2)
  obtain ⟨behind, ahead, hvisible, hlaid, -⟩ := h.covers
  obtain ⟨before, after, hb, hbehind⟩ := hlaid.piece t (List.mem_reverse.1 ht)
  refine ⟨before, after ++ (ahead ++ text.toList.dropWhile (· ≠ '\x00')), ?_, hbehind⟩
  rw [← List.append_assoc, ← hb, ← List.append_assoc, ← hvisible, visible,
    List.takeWhile_append_dropWhile]

/-- How tokens tile a text. Spans are in bytes; the end of the query is where the text ends, and
for that a text ends at its first U+0000. -/
structure Tiling (text : String) (front : List Token) (last : Token) : Prop where
  last_ends : last.kind.Ends
  front_goes_on : ∀ t ∈ front, ¬ t.kind.Ends
  pieces : ∀ t ∈ front ++ [last], t.Piece text.toList
  ordered : (front ++ [last]).Pairwise fun a b => a.start < a.stop ∧ a.stop ≤ b.start
  blanks : ∀ before c after, text.toList = before ++ c :: after → utf8Len before < last.start →
    (∀ t ∈ front ++ [last], ¬ (t.start ≤ utf8Len before ∧ utf8Len before < t.stop)) →
      c ∈ [' ', '\t', '\r', '\n']
  end_empty : last.kind = .endOfQuery →
    last.start = utf8Len (visible text) ∧ last.stop = last.start

/-- A character that begins within the front of a text is a character of that front. -/
theorem mem_front {front back before after : List Char} {c : Char}
    (h : front ++ back = before ++ c :: after) (hlt : utf8Len before < utf8Len front) :
    ∃ after', front = before ++ c :: after' := by
  rcases List.append_eq_append_iff.1 h with ⟨more, rfl, -⟩ | ⟨more, rfl, hback⟩
  · rw [String.utf8Len_append] at hlt
    omega
  · cases more with
    | nil => simp at hlt
    | cons d more =>
      cases hback
      exact ⟨more, rfl⟩

/-- The tokens of every text tile it. -/
theorem tokenize_tiling (text : String) :
    ∃ front last, tokenize text = front ++ [last] ∧ Tiling text front last := by
  have h := Machine.run_tiles (start_tiles text) (2 * (visible text).length + 2)
  obtain ⟨last, older, htokens, hlast, holder, hend⟩ :
      ∃ last older, ((start text).run (2 * (visible text).length + 2)).tokens = last :: older ∧
        last.kind.Ends ∧ (∀ t ∈ older, t.Inner) ∧
        (last.kind = .endOfQuery → last.start = utf8Len (visible text) ∧
          last.stop = last.start) := by
    have := h.closes
    rwa [Machine.Closes, if_pos (start_run_isFinal text)] at this
  obtain ⟨behind, ahead, hvisible, hlaid, -⟩ := h.covers
  rw [htokens] at hlaid
  obtain ⟨hidden, htext⟩ : ∃ hidden, text.toList = behind ++ hidden := by
    refine ⟨ahead ++ text.toList.dropWhile (· ≠ '\x00'), ?_⟩
    rw [← List.append_assoc, ← hvisible, visible, List.takeWhile_append_dropWhile]
  have hmem : ∀ t ∈ older.reverse ++ [last], t ∈ last :: older := by
    intro t ht
    simpa [or_comm] using ht
  refine ⟨older.reverse, last, by rw [tokenize_eq_run, htokens, List.reverse_cons], hlast,
    ?_, ?_, ?_, ?_, hend⟩
  · intro t ht
    exact (holder t (List.mem_reverse.1 ht)).1
  · intro t ht
    obtain ⟨before, after, hb, hbehind⟩ := hlaid.piece t (hmem t ht)
    exact ⟨before, after ++ hidden, by rw [htext, hb, List.append_assoc], hbehind⟩
  · obtain ⟨hfirst, hmore⟩ := List.pairwise_cons.1 hlaid.ordered
    rw [← List.reverse_cons, List.pairwise_reverse]
    refine .cons (fun a ha => ⟨(holder a ha).2, hfirst a ha⟩) ?_
    exact hmore.imp_of_mem fun _ ha hle => ⟨(holder _ ha).2, hle⟩
  · intro before c after hc hlt hout
    have hstop : last.start ≤ utf8Len behind := by
      obtain ⟨before, after, hb, hbehind⟩ := hlaid.piece last (by simp)
      rw [hb, hbehind.start]
      simp only [String.utf8Len_append]
      omega
    obtain ⟨after', hfront⟩ := mem_front (htext.symm.trans hc) (by omega)
    have hblank : isBlank c = true := hlaid.isBlank_of_notMem hfront fun t ht => hout t (by
      rcases List.mem_cons.1 ht with rfl | ht
      · simp
      · simp [ht])
    simp only [isBlank, Bool.or_eq_true, beq_iff_eq] at hblank
    rcases hblank with ((rfl | rfl) | rfl) | rfl <;> simp

end Lexer

end PathQuery
