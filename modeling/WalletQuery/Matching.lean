import WalletQuery.Cbor.ToJson
import WalletQuery.Path
import WalletQuery.Query.CredentialQuery

/-! Which claims of a credential answer a credential query. -/
namespace WalletQuery

/-- A value in the encoding of the credential that it comes from. -/
inductive ClaimValue where
  | mdoc (value : Cbor)
  | json (value : Json)

namespace ClaimValue

def toJson : ClaimValue → Json
  | mdoc value => value.toJson
  | json value => value

/-- Whether the value, as JSON, is among the accepted ones. -/
def isAccepted (value : ClaimValue) : Option (NonEmptyList Json) → Bool
  | some accepted => accepted.toList.any (· == value.toJson)
  | none => true

theorem isAccepted_congr {a b : ClaimValue} (same : a.toJson = b.toJson)
    (accepted : Option (NonEmptyList Json)) : a.isAccepted accepted = b.isAccepted accepted := by
  cases accepted with
  | none => rfl
  | some accepted => simp only [isAccepted, same]

end ClaimValue

/-- A claim and the value that a credential has for it. -/
abbrev Disclosure := Claim × ClaimValue

namespace Credential

def resolve (credential : Credential) (path : ClaimPath) : Except PathError ClaimValue :=
  match credential.claims with
  | .mdoc claims => .mdoc <$> claims.resolve path
  | .sdJwt claims => .json <$> claims.resolve path.toList

/-- The value of the claim, if there is one and it is accepted. -/
def disclose? (credential : Credential) (claim : Claim) : Option Disclosure :=
  match credential.resolve claim.path with
  | .ok value => if value.isAccepted claim.values then some (claim, value) else none
  | .error _ => none

/-- All the claims, or nothing. -/
def discloseAll? (credential : Credential) (claims : List Claim) : Option (List Disclosure) :=
  claims.mapM credential.disclose?

/-- The claims with the given ids, or nothing if one of the ids has no claim. -/
def discloseSet? (credential : Credential) (query : CredentialQuery) (ids : List String) :
    Option (List Disclosure) :=
  ids.mapM fun id => (query.claim? id).bind credential.disclose?

end Credential

/-- Without claim sets all claims are disclosed, else those of the first set that can be. The
constraint on the credential's type is not looked at. -/
def CredentialQuery.match? (query : CredentialQuery) (credential : Credential) :
    Option (List Disclosure) :=
  if query.claimSets.isEmpty then credential.discloseAll? query.claims.toList
  else query.claimSets.findSome? fun set => credential.discloseSet? query set.toList

end WalletQuery
