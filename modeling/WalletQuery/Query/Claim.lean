import WalletQuery.Dictionary
import WalletQuery.Json.Basic
import WalletQuery.Path
import WalletQuery.Text.Label

/-! Claims that a verifier asks for, and where they stand by their ids. -/
namespace WalletQuery

structure Claim where
  id : Option String := none
  path : ClaimPath
  /-- The accepted values; without them any value is accepted. -/
  values : Option (NonEmptyList Json) := none
  /-- Whether the verifier means to keep the claim, which only mdoc readers declare. -/
  intentToRetain : Option Bool := none

namespace Claim

/-- The label of the claim's name, or the path where it names no claim. -/
def label (claim : Claim) : String :=
  match claim.path.claimName with
  | some name => Text.label name
  | none => claim.path.text

instance : BEq Claim :=
  ⟨fun a b => a.id == b.id && a.path == b.path && a.values == b.values &&
    a.intentToRetain == b.intentToRetain⟩

theorem beq_iff {a b : Claim} :
    (a == b) = true ↔ a.id = b.id ∧ a.path = b.path ∧ (a.values == b.values) = true ∧
      a.intentToRetain = b.intentToRetain := by
  change (a.id == b.id && a.path == b.path && a.values == b.values &&
    a.intentToRetain == b.intentToRetain) = true ↔ _
  simp only [Bool.and_eq_true, beq_iff_eq, and_assoc]

instance : ReflBEq Claim := ⟨beq_iff.2 ⟨rfl, rfl, BEq.rfl, rfl⟩⟩

end Claim

/-- The ids of those claims that have one, in order. -/
def claimIds (claims : List Claim) : List String := claims.filterMap Claim.id

/-- The position of each claim that has an id. -/
abbrev ClaimIndex := Dictionary Nat

namespace ClaimIndex

/-- Enters a claim with its position, if it has an id. An id that is entered already fails. -/
def enter (index : ClaimIndex) (entry : Claim × Nat) : Except String ClaimIndex :=
  match entry.1.id with
  | some id =>
    match index.get? id with
    | some _ => .error id
    | none => .ok (index.insert id entry.2)
  | none => .ok index

def ofClaims (claims : List Claim) : Except String ClaimIndex := claims.zipIdx.foldlM enter ∅

end ClaimIndex
end WalletQuery
