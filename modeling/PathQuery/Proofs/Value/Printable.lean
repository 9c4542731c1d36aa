import PathQuery.Proofs.Number.Printing

/-! The texts of values hold no control characters: in strings they are escaped, and nothing else
has any. -/
namespace PathQuery

/-- A text without control characters. -/
def Printable (text : List Char) : Prop := ∀ c ∈ text, ' ' ≤ c

namespace Printable
variable {text text' sep : List Char} {c : Char}

instance (text : List Char) : Decidable (Printable text) :=
  List.decidableBAll (fun c => ' ' ≤ c) text

theorem nil : Printable [] := by decide

theorem cons (hc : ' ' ≤ c) (h : Printable text) : Printable (c :: text) := by
  intro d hd
  rcases List.mem_cons.1 hd with rfl | hd
  · exact hc
  · exact h d hd

theorem append (h : Printable text) (h' : Printable text') : Printable (text ++ text') := by
  intro c hc
  rcases List.mem_append.1 hc with hc | hc
  · exact h c hc
  · exact h' c hc

theorem flatMap {f : Char → List Char} (h : ∀ c, Printable (f c)) (text : List Char) :
    Printable (text.flatMap f) := by
  intro d hd
  obtain ⟨c, -, hc⟩ := List.mem_flatMap.1 hd
  exact h c d hc

theorem intercalate {texts : List (List Char)} (hs : Printable sep)
    (h : ∀ text ∈ texts, Printable text) : Printable (sep.intercalate texts) := by
  induction texts with
  | nil => exact nil
  | cons text texts ih =>
    have hrest := ih fun t ht => h t (by simp [ht])
    cases texts with
    | nil => simpa using h text (by simp)
    | cons next texts =>
      rw [List.intercalate_cons_cons]
      exact ((h text (by simp)).append hs).append hrest

theorem lineFeed_notMem (h : Printable text) : '\n' ∉ text := fun hm => absurd (h _ hm) (by decide)

theorem spell {negative : Bool} {whole fraction : List Char} {exponent : Option Int}
    (hw : Numeral.IsDigits whole) (hf : Numeral.IsDigits fraction) :
    Printable (Numeral.spell negative whole fraction exponent) := by
  intro c hc
  rcases Numeral.mem_spell hw hf hc with hd | hm
  · simp only [Char.isDigit, Bool.and_eq_true, decide_eq_true_eq] at hd
    exact Char.le_trans (by decide) hd.1
  · have hmarks : Printable ['.', 'e', '-', '+'] := by decide
    exact hmarks c hm

end Printable

namespace Json

theorem printable_escape (c : Char) : Printable (escape c) := by
  unfold escape
  split
  case h_8 =>
    split
    next hlt =>
      have hc : c.toNat < 32 := hlt
      have hdigit : ∀ n < 16, ' ' ≤ Nat.digitChar n := by decide
      have hdigits : Printable (hexDigits c) :=
        .cons (hdigit _ (by omega)) (.cons (hdigit _ (by omega)) .nil)
      exact .append (by decide) hdigits
    next hle => exact .cons (Char.not_lt.1 hle) .nil
  all_goals decide

theorem printable_quote (s : String) : Printable (quote s).toList := by
  have hname := Printable.flatMap printable_escape s.toList
  rw [quote, String.toList_ofList]
  exact .cons (by decide) (hname.append (.cons (by decide) .nil))

theorem Num.printable_text (n : Num) : Printable n.text.toList := by
  cases n with
  | whole n fits =>
    rw [text, Int.toList_repr]
    exact .spell (Numeral.isDigits_toDigits _) (by simp [Numeral.IsDigits])
  | real x finite =>
    cases x with
    | finite negative units fits =>
      obtain ⟨_, _, _, _, htext, hw, -, hf, -⟩ :=
        Decimal.text_prints (Decimal.shortest negative units fits)
      rw [text, htext]
      exact .spell hw hf
    | infinite negative => exact show Printable "null".toList by decide

mutual

theorem printable_text : (j : Json) → Printable j.text.toList
  | .null => by decide
  | .bool true => by decide
  | .bool false => by decide
  | .num n => n.printable_text
  | .string s => printable_quote s
  | .array items => by
    have hitems : Printable ([','].intercalate ((itemTexts items).map String.toList)) :=
      .intercalate (by decide) (List.forall_mem_map.2 (printable_itemTexts items))
    simp only [text, String.toList_append, String.toList_intercalate]
    exact (Printable.append (by decide) hitems).append (by decide)
  | .object members => by
    have hmembers : Printable ([','].intercalate ((memberTexts members).map String.toList)) :=
      .intercalate (by decide) (List.forall_mem_map.2 (printable_memberTexts members))
    simp only [text, String.toList_append, String.toList_intercalate]
    exact (Printable.append (by decide) hmembers).append (by decide)

theorem printable_itemTexts : (items : List Json) → ∀ s ∈ itemTexts items, Printable s.toList
  | [], s, hs => by simp [itemTexts] at hs
  | item :: rest, s, hs => by
    rcases List.mem_cons.1 hs with rfl | hs
    · exact printable_text item
    · exact printable_itemTexts rest s hs

theorem printable_memberTexts : (members : List (String × Json)) →
    ∀ s ∈ memberTexts members, Printable s.toList
  | [], s, hs => by simp [memberTexts] at hs
  | (name, value) :: rest, s, hs => by
    rcases List.mem_cons.1 hs with rfl | hs
    · rw [String.toList_append, String.toList_append]
      exact ((printable_quote name).append (by decide)).append
        (printable_text value)
    · exact printable_memberTexts rest s hs

end

end Json

theorem Value.printable_text (v : Value) : Printable v.text.toList := v.toJson.printable_text

end PathQuery
