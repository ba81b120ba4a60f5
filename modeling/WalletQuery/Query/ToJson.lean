import WalletQuery.Query.Basic

/-! Queries written as JSON values. Members without a value are left out, and so are the lists of
claim sets and of credential sets when they are empty. -/
namespace WalletQuery

namespace Json

def ofList {α : Type} (item : α → Json) (items : List α) : Json := .arr (items.map item)

def ofStrings (items : NonEmptyList String) : Json := ofList .str items.toList

/-- Nothing for an empty list. -/
def ofNonEmpty? {α : Type} (item : α → Json) (items : List α) : Option Json :=
  if items.isEmpty then none else some (ofList item items)

end Json

theorem PathStep.position_range (position : UInt64) :
    -0x8000000000000000 ≤ (position.toNat : Int) ∧
      (position.toNat : Int) ≤ 0xffffffffffffffff := by
  have := position.toNat_lt
  omega

def PathStep.toJson : PathStep → Json
  | key name => .str name
  | index position =>
    .int ⟨position.toNat, (position_range position).1, (position_range position).2⟩
  | wildcard => .null

def ClaimPath.toJson (path : ClaimPath) : Json := .ofList PathStep.toJson path.toList

def Claim.fields (claim : Claim) : List (String × Option Json) :=
  [("id", claim.id.map .str),
   ("intent_to_retain", claim.intentToRetain.map .bool),
   ("path", some claim.path.toJson),
   ("values", claim.values.map fun values => .arr values.toList)]

def Claim.toJson (claim : Claim) : Json := .ofMembers claim.fields

def Constraint.toJson : Constraint → Json
  | doctype value => .ofMembers [("doctype_value", some (.str value))]
  | vct values => .ofMembers [("vct_values", some (.ofStrings values))]
  | other members => .obj members.entries

def TrustedAuthority.fields (authority : TrustedAuthority) : List (String × Option Json) :=
  [("type", some (.str authority.type.name)),
   ("values", some (.ofStrings authority.values))]

def TrustedAuthority.toJson (authority : TrustedAuthority) : Json := .ofMembers authority.fields

def CredentialQuery.fields (query : CredentialQuery) : List (String × Option Json) :=
  [("claim_sets", Json.ofNonEmpty? Json.ofStrings query.claimSets),
   ("claims", some (.ofList Claim.toJson query.claims.toList)),
   ("format", some (.str query.format.name)),
   ("id", some (.str query.id)),
   ("meta", some query.constraint.toJson),
   ("multiple", query.multiple.map .bool),
   ("require_cryptographic_holder_binding", query.holderBinding.map .bool),
   ("trusted_authorities",
     query.trustedAuthorities.map fun authorities =>
       .ofList TrustedAuthority.toJson authorities.toList)]

def CredentialQuery.toJson (query : CredentialQuery) : Json := .ofMembers query.fields

def CredentialSet.fields (set : CredentialSet) : List (String × Option Json) :=
  [("options", some (.ofList .ofStrings set.options.toList)),
   ("purpose", some set.purpose),
   ("required", some (.bool set.required))]

def CredentialSet.toJson (set : CredentialSet) : Json := .ofMembers set.fields

def Query.fields (query : Query) : List (String × Option Json) :=
  [("credential_sets", Json.ofNonEmpty? CredentialSet.toJson query.sets),
   ("credentials", some (.ofList CredentialQuery.toJson query.credentials.toList))]

def Query.toJson (query : Query) : Json := .ofMembers query.fields

end WalletQuery
