import Mathlib.Algebra.GroupWithZero.Nat
import WalletQuery.Json.Text

/-! How many quotation marks the text of a JSON value has. Escapes add none of them, so that a text
has two more when it is quoted. -/
namespace WalletQuery.Json

def quotationMarks (text : String) : Nat := text.toList.count '"'

theorem quotationMarks_append (a b : String) :
    quotationMarks (a ++ b) = quotationMarks a + quotationMarks b := by
  simp [quotationMarks]

theorem quotationMarks_intercalate (texts : List String) :
    quotationMarks (",".intercalate texts) = (texts.map quotationMarks).sum := by
  induction texts with
  | nil => rfl
  | cons first rest ih =>
    cases rest with
    | nil => simp
    | cons second rest =>
      rw [String.intercalate_cons_cons, quotationMarks_append, quotationMarks_append, ih]
      rfl

/-- An escaped quotation mark is still one, and no other character becomes one. -/
theorem count_escape (c : Char) : (escape c).count '"' = [c].count '"' := by
  have digit (n : Nat) : '"' ≠ Nat.digitChar n := by grind [Nat.digitChar]
  by_cases mark : c = '"'
  · subst mark
    rfl
  · have none : '"' ∉ escape c := by
      unfold escape
      split
      case h_1 => contradiction
      case h_8 => split <;> simp [digit, Ne.symm mark]
      all_goals decide
    rw [List.count_eq_zero.2 none, List.count_eq_zero.2 (by simpa using Ne.symm mark)]

theorem quotationMarks_quote (text : String) :
    quotationMarks (quote text) = quotationMarks text + 2 := by
  have escaped : (text.toList.flatMap escape).count '"' = text.toList.count '"' := by
    induction text.toList with
    | nil => rfl
    | cons c rest ih =>
      rw [List.flatMap_cons, List.count_append, count_escape, ih, ← List.count_append]
      rfl
  simp [quotationMarks, quote, escaped]

/-- The quotation marks of a member, with those around its name. -/
def memberMarks (member : String × Json) : Nat :=
  quotationMarks member.1 + 2 + quotationMarks member.2.text

theorem quotationMarks_arr (items : List Json) :
    quotationMarks (arr items).text = (items.map fun item => quotationMarks item.text).sum := by
  rw [text, quotationMarks_append, quotationMarks_append, quotationMarks_intercalate,
    itemTexts_eq_map, List.map_map]
  simp [quotationMarks, Function.comp_def]

theorem quotationMarks_obj (members : List (String × Json)) :
    quotationMarks (obj members).text = (members.map memberMarks).sum := by
  have each (member : String × Json) :
      quotationMarks (quote member.1 ++ ":" ++ member.2.text) = memberMarks member := by
    rw [quotationMarks_append, quotationMarks_append, quotationMarks_quote]
    rfl
  rw [text, quotationMarks_append, quotationMarks_append, quotationMarks_intercalate,
    memberTexts_eq_map, List.map_map]
  simp only [Function.comp_def, each]
  simp [quotationMarks]

end WalletQuery.Json
