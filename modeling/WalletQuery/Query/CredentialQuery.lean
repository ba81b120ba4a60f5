import WalletQuery.Query.Claim
import WalletQuery.Query.Constraint
import WalletQuery.Query.Violation

/-! A query for credentials of one format and type. -/
namespace WalletQuery

/-- Ids of claims that are enough together. -/
abbrev ClaimSet := NonEmptyList String

structure CredentialQuery where
  id : String
  format : Format
  constraint : Constraint
  claims : NonEmptyList Claim
  /-- An earlier claim set is preferred; without any all claims are asked for. -/
  claimSets : List ClaimSet
  index : ClaimIndex
  trustedAuthorities : Option (NonEmptyList TrustedAuthority) := none
  holderBinding : Option Bool := none
  multiple : Option Bool := none
  applies : constraint.appliesTo format = true
  indexed : ClaimIndex.ofClaims claims.toList = .ok index

namespace CredentialQuery

/-- A credential query without any of the optional settings. -/
def ofParts (id : String) (format : Format) (constraint : Constraint) (claims : NonEmptyList Claim)
    (claimSets : List ClaimSet) : Except Violation CredentialQuery :=
  if applies : constraint.appliesTo format = true then
    match indexed : ClaimIndex.ofClaims claims.toList with
    | .error claim => .error (.repeatedClaimId id claim)
    | .ok index => .ok { id, format, constraint, claims, claimSets, index, applies, indexed }
  else .error (.constraintMismatch id format)

/-- The claim that stands where the index says. -/
def claim? (query : CredentialQuery) (id : String) : Option Claim := do
  let position ← query.index.get? id
  query.claims.toList[position]?

/-- Settings that may be changed after a query is made. -/
inductive Setting where
  | trustedAuthorities (value : Option (NonEmptyList TrustedAuthority))
  | holderBinding (value : Option Bool)
  | multiple (value : Option Bool)

def set (query : CredentialQuery) : Setting → CredentialQuery
  | .trustedAuthorities value => { query with trustedAuthorities := value }
  | .holderBinding value => { query with holderBinding := value }
  | .multiple value => { query with multiple := value }

def requiresHolderBinding (query : CredentialQuery) : Bool := query.holderBinding.getD true

/-- Whether the wallet may return several credentials for the query. -/
def allowsMultiple (query : CredentialQuery) : Bool := query.multiple.getD false

/-- The index need not be compared, as it follows from the claims. -/
instance : BEq CredentialQuery :=
  ⟨fun a b => a.id == b.id && a.format == b.format && a.constraint == b.constraint &&
    a.claims == b.claims && a.claimSets == b.claimSets &&
    a.trustedAuthorities == b.trustedAuthorities && a.holderBinding == b.holderBinding &&
    a.multiple == b.multiple⟩

theorem beq_iff {a b : CredentialQuery} :
    (a == b) = true ↔ a.id = b.id ∧ a.format = b.format ∧ (a.constraint == b.constraint) = true ∧
      (a.claims == b.claims) = true ∧ a.claimSets = b.claimSets ∧
      a.trustedAuthorities = b.trustedAuthorities ∧ a.holderBinding = b.holderBinding ∧
      a.multiple = b.multiple := by
  change (a.id == b.id && a.format == b.format && a.constraint == b.constraint &&
    a.claims == b.claims && a.claimSets == b.claimSets &&
    a.trustedAuthorities == b.trustedAuthorities && a.holderBinding == b.holderBinding &&
    a.multiple == b.multiple) = true ↔ _
  simp only [Bool.and_eq_true, beq_iff_eq, and_assoc]

instance : ReflBEq CredentialQuery := ⟨beq_iff.2 ⟨rfl, rfl, BEq.rfl, BEq.rfl, rfl, rfl, rfl, rfl⟩⟩

end CredentialQuery
end WalletQuery
