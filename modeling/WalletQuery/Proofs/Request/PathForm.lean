import Mathlib.Data.Set.List
import WalletQuery.Proofs.Request.Exact
import WalletQuery.Proofs.Request.Written

/-! The JSON form of a path. A path is read from the value that it is written as and from no other,
so that reading and writing undo each other, and its form tells whether a value is a path. -/
namespace WalletQuery

namespace Json

/-- A key, a position in an array, or null for all elements. -/
def IsPathStep : Json → Prop
  | .str _ => True
  | .int position => 0 ≤ position.val ∧ position.val ≤ 0xffffffffffffffff
  | .null => True
  | _ => False

def IsPath : Json → Prop
  | .arr items => items ≠ [] ∧ ∀ item ∈ items, item.IsPathStep
  | _ => False

instance (value : Json) : Decidable value.IsPathStep := by
  unfold IsPathStep
  split <;> infer_instance

instance (value : Json) : Decidable value.IsPath := by
  unfold IsPath
  split <;> infer_instance

end Json

namespace PathStep

theorem isPathStep_toJson (step : PathStep) : step.toJson.IsPathStep := by
  cases step with
  | key name => trivial
  | index position =>
    have bound := position.toNat_lt
    show 0 ≤ (position.toNat : Int) ∧ (position.toNat : Int) ≤ 0xffffffffffffffff
    omega
  | wildcard => trivial

theorem exists_toJson_of_isPathStep {value : Json} (h : value.IsPathStep) :
    ∃ step : PathStep, step.toJson = value := by
  cases value with
  | str name => exact ⟨.key name, rfl⟩
  | null => exact ⟨.wildcard, rfl⟩
  | int position =>
    have read : PathStep.read (.int position) = .ok (.index (.ofNat position.val.toNat)) := by
      rw [PathStep.read, if_pos h.1]
    exact ⟨.index (.ofNat position.val.toNat), (exact_read _ _ read).symm⟩
  | _ => contradiction

theorem range_toJson : Set.range PathStep.toJson = {value | value.IsPathStep} := by
  ext value
  constructor
  · intro h
    obtain ⟨step, rfl⟩ := h
    exact step.isPathStep_toJson
  · exact exists_toJson_of_isPathStep

end PathStep

namespace ClaimPath
variable {value : Json} {path : ClaimPath}

theorem read_eq_ok_iff : ClaimPath.read value = .ok path ↔ path.toJson = value := by
  constructor
  · intro read
    exact (exact_read value path read).symm
  · intro written
    rw [← written]
    exact path.read_toJson

theorem isPath_toJson (path : ClaimPath) : path.toJson.IsPath := by
  refine ⟨by simp [toList], ?_⟩
  intro item mem
  obtain ⟨step, -, rfl⟩ := List.mem_map.1 mem
  exact step.isPathStep_toJson

theorem exists_toJson_of_isPath (h : value.IsPath) : ∃ path : ClaimPath, path.toJson = value := by
  cases value with
  | arr items =>
    obtain ⟨nonempty, each⟩ := h
    have written : items ∈ Set.range (List.map PathStep.toJson) := by
      rw [Set.range_list_map, PathStep.range_toJson]
      exact each
    obtain ⟨steps, rfl⟩ := written
    cases steps with
    | nil => contradiction
    | cons step steps => exact ⟨⟨⟨step, steps⟩⟩, rfl⟩
  | _ => contradiction

theorem exists_read_iff : (∃ path, ClaimPath.read value = .ok path) ↔ value.IsPath := by
  simp only [read_eq_ok_iff]
  constructor
  · intro h
    obtain ⟨path, rfl⟩ := h
    exact path.isPath_toJson
  · exact exists_toJson_of_isPath

theorem toJson_injective : Function.Injective ClaimPath.toJson := by
  intro path other same
  have read : ClaimPath.read other.toJson = .ok path := read_eq_ok_iff.2 same
  rw [other.read_toJson] at read
  exact (Except.ok.inj read).symm

/-- A value is read as a path if and only if it is an array, not empty, of texts, integers from `0`
to `2 ^ 64 - 1` and nulls. The path read is written as that value again, every path is read back
from what it is written as, and no two paths are written alike. -/
theorem exact_codec :
    (∀ value, (∃ path, ClaimPath.read value = .ok path) ↔ value.IsPath) ∧
    (∀ value path, ClaimPath.read value = .ok path → path.toJson = value) ∧
    (∀ path : ClaimPath, ClaimPath.read path.toJson = .ok path) ∧
    Function.Injective ClaimPath.toJson := by
  refine ⟨fun value => exists_read_iff, ?_, read_toJson, toJson_injective⟩
  intro value path read
  exact read_eq_ok_iff.1 read

/-- The type of each degree at the last position that a path can have. -/
def lastTypes : ClaimPath where
  steps := ⟨.key "degrees", [.wildcard, .key "type", .index 0xffffffffffffffff]⟩

theorem read_lastTypes :
    let form := Json.arr [.str "degrees", .null, .str "type",
      .int ⟨0xffffffffffffffff, by decide, by decide⟩]
    let fromTheEnd := Json.arr [.str "degrees", .int ⟨-1, by decide, by decide⟩]
    ClaimPath.read form = .ok lastTypes ∧ lastTypes.toJson = form ∧ form.IsPath ∧
      (¬∃ path, ClaimPath.read fromTheEnd = .ok path) ∧
      ∀ path : ClaimPath, path.toJson = form → path = lastTypes := by
  intro form fromTheEnd
  obtain ⟨readIff, written, -, injective⟩ := exact_codec
  have read : ClaimPath.read form = .ok lastTypes := rfl
  have back : lastTypes.toJson = form := written form lastTypes read
  have isPath : form.IsPath := (readIff form).1 ⟨lastTypes, read⟩
  have noPath : ¬fromTheEnd.IsPath := by decide
  refine ⟨read, back, isPath, mt (readIff fromTheEnd).1 noPath, ?_⟩
  intro path same
  apply injective
  rw [same, back]

end ClaimPath
end WalletQuery
