import WalletQuery.Matching
import WalletQuery.Proofs.Traversal

/-! The kind of JSON value that each kind of CBOR item is read as. Values of different kinds are
never equal, so that an item is accepted only where a value of its kind is. -/
namespace WalletQuery

/-- The kinds of JSON values; arrays of different lengths are of different kinds. -/
inductive Json.Kind where
  | null
  | boolean
  | number
  | string
  | array (length : Nat)
  | object
  deriving DecidableEq

def Json.kind : Json → Kind
  | .null => .null
  | .bool _ => .boolean
  | .int _ => .number
  | .float _ => .number
  | .str _ => .string
  | .arr items => .array items.length
  | .obj _ => .object

theorem Json.kind_eq_of_beq {a b : Json} (h : (a == b) = true) : a.kind = b.kind := by
  cases a with
  | arr items =>
    cases b with
    | arr others =>
      have same : (items == others) = true := beqItems_eq items others ▸ h
      exact congrArg Kind.array (beq_iff_forall₂.1 same).length_eq
    | _ => contradiction
  | _ => cases b <;> first | rfl | contradiction

theorem Json.eq_null_of_kind {value : Json} (h : value.kind = .null) : value = .null := by
  cases value with
  | null => rfl
  | _ => contradiction

namespace Cbor
variable {item : Cbor} {accepted : NonEmptyList Json}

/-- The item under the outer tags. -/
def untagged : Cbor → Cbor
  | .tag _ item => item.untagged
  | item => item

/-- The kind of value that an item is read as. Of the numbers JSON has the integers from `-2 ^ 63`
on and the finite floats. -/
def jsonKind : Cbor → Json.Kind
  | .null => .null
  | .bool _ => .boolean
  | .int value => if -0x8000000000000000 ≤ value.val then .number else .string
  | .float value => if value.isFinite then .number else .null
  | .text _ => .string
  | .bytes _ => .string
  | .arr items => .array items.length
  | .tag _ item => item.jsonKind
  | .map _ => .object

theorem jsonKind_untagged (item : Cbor) : item.untagged.jsonKind = item.jsonKind := by
  induction item with
  | tag number item ih => exact ih
  | _ => rfl

/-- JSON has all the integers but those below `-2 ^ 63`. -/
theorem ofInt?_eq_none_iff_lt {value : CborInt} :
    Ranged.ofInt? (-0x8000000000000000) 0xffffffffffffffff value.val = none ↔
      value.val < -0x8000000000000000 := by
  have last := value.le_last
  rw [Ranged.ofInt?_eq_none_iff]
  omega

theorem intToJson_of_lt {value : CborInt} (below : value.val < -0x8000000000000000) :
    intToJson value = .str (toString value.val) := by
  rw [intToJson, ofInt?_eq_none_iff_lt.2 below]

theorem kind_intToJson (value : CborInt) :
    (intToJson value).kind = if -0x8000000000000000 ≤ value.val then .number else .string := by
  unfold intToJson
  split
  · next covered found =>
    have same : value.val = covered.val := Ranged.ofInt?_eq_some_iff.1 found
    have first := covered.first_le
    rw [if_pos (by omega)]
    rfl
  · next found =>
    have below := ofInt?_eq_none_iff_lt.1 found
    rw [if_neg (by omega)]
    rfl

theorem kind_floatToJson (value : Binary64) :
    (floatToJson value).kind = if value.isFinite then .number else .null := by
  unfold floatToJson
  split <;> rfl

theorem kind_toJson (item : Cbor) : item.toJson.kind = item.jsonKind := by
  induction item with
  | int value => exact kind_intToJson value
  | float value => exact kind_floatToJson value
  | arr items ih => simp only [toJson, Json.kind, jsonKind, itemsToJson_eq_map, List.length_map]
  | tag number item ih => exact ih
  | _ => rfl

theorem exists_kind_of_isAccepted (h : (ClaimValue.mdoc item).isAccepted (some accepted) = true) :
    ∃ value ∈ accepted.toList, value.kind = item.jsonKind := by
  obtain ⟨value, mem, same⟩ := List.any_eq_true.1 h
  refine ⟨value, mem, ?_⟩
  rw [Json.kind_eq_of_beq same]
  exact kind_toJson item

theorem isAccepted_eq_false_of_kind
    (other : ∀ value ∈ accepted.toList, value.kind ≠ item.jsonKind) :
    (ClaimValue.mdoc item).isAccepted (some accepted) = false := by
  rw [Bool.eq_false_iff]
  intro accepts
  obtain ⟨value, mem, same⟩ := exists_kind_of_isAccepted accepts
  exact other value mem same

theorem jsonKind_eq_null_iff :
    item.jsonKind = .null ↔
      item.untagged = .null ∨ ∃ value, item.untagged = .float value ∧ value.isFinite = false := by
  induction item with
  | int value =>
    unfold jsonKind
    split <;> simp [untagged]
  | float value => simp [jsonKind, untagged]
  | tag number item ih => exact ih
  | _ => simp [jsonKind, untagged]

theorem isAccepted_null_iff :
    (ClaimValue.mdoc item).isAccepted (some (.singleton .null)) = true ↔ item.jsonKind = .null := by
  constructor
  · intro accepts
    obtain ⟨value, mem, same⟩ := exists_kind_of_isAccepted accepts
    rw [List.mem_singleton.1 mem] at same
    exact same.symm
  · intro null
    rw [← kind_toJson] at null
    have read : (ClaimValue.mdoc item).toJson = .null := Json.eq_null_of_kind null
    simp [ClaimValue.isAccepted, read]

theorem toJson_untagged (item : Cbor) : item.untagged.toJson = item.toJson := by
  induction item with
  | tag number item ih => exact ih
  | _ => rfl

/-- An item is read as a value of its kind, an integer below `-2 ^ 63` as its decimal text, and is
accepted only where a value of that kind is. So an integer from `-2 ^ 63` on is never accepted among
texts, and nothing but null and the floats that are not finite is accepted as null. -/
theorem acceptance_keeps_kind (item : Cbor) :
    item.toJson.kind = item.jsonKind ∧
    (∀ number, item.untagged = .int number → number.val < -0x8000000000000000 →
      item.toJson = .str (toString number.val)) ∧
    (∀ accepted, (ClaimValue.mdoc item).isAccepted (some accepted) = true →
      ∃ value ∈ accepted.toList, value.kind = item.jsonKind) ∧
    (∀ number accepted, item.untagged = .int number → -0x8000000000000000 ≤ number.val →
      (∀ value ∈ accepted.toList, value.kind = .string) →
      (ClaimValue.mdoc item).isAccepted (some accepted) = false) ∧
    ((ClaimValue.mdoc item).isAccepted (some (.singleton .null)) = true ↔
      item.untagged = .null ∨
        ∃ value, item.untagged = .float value ∧ value.isFinite = false) := by
  refine ⟨kind_toJson item, ?_, fun accepted => exists_kind_of_isAccepted, ?_, ?_⟩
  · intro number integer below
    rw [← toJson_untagged, integer]
    exact intToJson_of_lt below
  · intro number accepted integer covered texts
    have kind : item.jsonKind = .number := by
      rw [← jsonKind_untagged, integer]
      exact if_pos covered
    apply isAccepted_eq_false_of_kind
    intro value mem
    rw [texts value mem, kind]
    decide
  · rw [isAccepted_null_iff, jsonKind_eq_null_iff]

/-- The least integer that JSON has, under two tags, the one below it, and a float that JSON does
not have. -/
theorem isAccepted_leastNumber :
    let least : CborInt := ⟨-0x8000000000000000, by decide, by decide⟩
    let below : CborInt := ⟨-0x8000000000000001, by decide, by decide⟩
    let item := Cbor.tag 55799 (.tag 1 (.int least))
    let infinite := Cbor.tag 1 (.float ⟨0x7ff0000000000000⟩)
    let numbers : NonEmptyList Json :=
      ⟨.null, [.int ⟨-0x8000000000000000, by decide, by decide⟩]⟩
    let texts : NonEmptyList Json := .singleton (.str "-9223372036854775808")
    (ClaimValue.mdoc item).isAccepted (some numbers) = true ∧
      (∃ value ∈ numbers.toList, value.kind = item.jsonKind) ∧
      (ClaimValue.mdoc item).isAccepted (some texts) = false ∧
      (Cbor.tag 1 (.int below)).toJson = .str (toString (-9223372036854775809 : Int)) ∧
      (ClaimValue.mdoc infinite).isAccepted (some (.singleton .null)) = true := by
  intro least below item infinite numbers texts
  obtain ⟨-, -, inKind, notAmongTexts, -⟩ := acceptance_keeps_kind item
  obtain ⟨-, asText, -, -, -⟩ := acceptance_keeps_kind (.tag 1 (.int below))
  obtain ⟨-, -, -, -, asNull⟩ := acceptance_keeps_kind infinite
  have accepts : (ClaimValue.mdoc item).isAccepted (some numbers) = true := by decide
  have allTexts : ∀ value ∈ texts.toList, value.kind = .string := by decide
  have covered : -0x8000000000000000 ≤ least.val := Int.le_refl _
  have uncovered : below.val < -0x8000000000000000 := by decide
  have notFinite : Binary64.isFinite ⟨0x7ff0000000000000⟩ = false := by decide
  exact ⟨accepts, inKind numbers accepts, notAmongTexts least texts rfl covered allTexts,
    asText below rfl uncovered, asNull.2 (.inr ⟨⟨0x7ff0000000000000⟩, rfl, notFinite⟩)⟩

/-- An integer that JSON does not have is read as a text, and is accepted among texts. -/
theorem isAccepted_below_leastNumber :
    let item := Cbor.int ⟨-0x8000000000000001, by decide, by decide⟩
    item.toJson = .str "-9223372036854775809" ∧ item.toJson.kind ≠ .number ∧
      (ClaimValue.mdoc item).isAccepted (some (.singleton (.str "-9223372036854775809"))) =
        true := by
  intro item
  have read : item.toJson = .str "-9223372036854775809" := rfl
  refine ⟨read, ?_, ?_⟩
  · rw [read]
    decide
  · simp only [ClaimValue.isAccepted, ClaimValue.toJson, read]
    decide

end Cbor
end WalletQuery
