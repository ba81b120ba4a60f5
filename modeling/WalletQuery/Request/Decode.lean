import WalletQuery.Dictionary
import WalletQuery.Format
import WalletQuery.Json.Basic
import WalletQuery.Path
import WalletQuery.Query.Constraint
import WalletQuery.Request.Shape

/-! Requests of the right shape, before the rules of the query language are checked, and how they
are read. A record is an object, or an array of all its fields. The members of an object are read in
the order of their names, unknown ones are passed over, and then missing ones are reported in the
order of the fields. -/
namespace WalletQuery
open Reader

structure ClaimRequest where
  id : Option String
  path : ClaimPath
  values : Option (List Json)
  intentToRetain : Option Bool

structure CredentialRequest where
  id : String
  format : String
  constraint : Option (Dictionary Json)
  claims : Option (List ClaimRequest)
  claimSets : Option (List (List String))
  trustedAuthorities : Option (List TrustedAuthority)
  holderBinding : Option Bool
  multiple : Option Bool

structure CredentialSetRequest where
  purpose : Json
  required : Option Bool
  options : List (List String)

structure Request where
  credentials : Option (List CredentialRequest)
  sets : Option (List CredentialSetRequest)

def PathStep.read : Reader PathStep
  | .str name => .ok (.key name)
  | .int position =>
    if 0 ≤ position.val then .ok (.index (.ofNat position.val.toNat)) else .error .pathStep
  | .null => .ok .wildcard
  | _ => .error .pathStep

def ClaimPath.read : Reader ClaimPath := fun value =>
  ClaimPath.mk <$> nonEmptyList PathStep.read value

/-- A type is given by its name; a known one may also be the only member of an object, with the
value null. -/
def AuthorityType.read : Reader AuthorityType
  | .str name => .ok (.ofName name)
  | .obj [(name, .null)] =>
    match known.lookup name with
    | some type => .ok type
    | none => .error .authorityType
  | _ => .error .authorityType

def TrustedAuthority.read : Reader TrustedAuthority
  | .obj members => do
    let type ← member? AuthorityType.read "type" members
    let values ← member? (nonEmptyList string) "values" members
    return { type := ← present "type" type
             values := ← present "values" values }
  | .arr items => do
    let field {α : Type} (position : Nat) (item : Reader α) :=
      element item .trustedAuthority items position
    let type ← field 0 AuthorityType.read
    let values ← field 1 (nonEmptyList string)
    Record.trustedAuthority.checkLength items
    return { type, values }
  | found => .error (.wrongType found (.record .trustedAuthority))

def ClaimRequest.read : Reader ClaimRequest
  | .obj members => do
    let id ← optional string "id" members
    let intentToRetain ← optional boolean "intent_to_retain" members
    let path ← member? ClaimPath.read "path" members
    let values ← optional (list any) "values" members
    return { id, path := ← present "path" path, values, intentToRetain }
  | .arr items => do
    let field {α : Type} (position : Nat) (item : Reader α) :=
      element item .claim items position
    let id ← field 0 (nullable string)
    let path ← field 1 ClaimPath.read
    let values ← field 2 (nullable (list any))
    let intentToRetain ← field 3 (nullable boolean)
    Record.claim.checkLength items
    return { id, path, values, intentToRetain }
  | found => .error (.wrongType found (.record .claim))

def CredentialRequest.read : Reader CredentialRequest
  | .obj members => do
    let claimSets ← optional (list (list string)) "claim_sets" members
    let claims ← optional (list ClaimRequest.read) "claims" members
    let format ← member? string "format" members
    let id ← member? string "id" members
    let constraint ← optional map "meta" members
    let multiple ← optional boolean "multiple" members
    let holderBinding ← optional boolean "require_cryptographic_holder_binding" members
    let trustedAuthorities ← optional (list TrustedAuthority.read) "trusted_authorities" members
    let id ← present "id" id
    let format ← present "format" format
    return { id, format, constraint, claims, claimSets, trustedAuthorities, holderBinding,
             multiple }
  | .arr items => do
    let field {α : Type} (position : Nat) (item : Reader α) :=
      element item .credentialQuery items position
    let id ← field 0 string
    let format ← field 1 string
    let constraint ← field 2 (nullable map)
    let claims ← field 3 (nullable (list ClaimRequest.read))
    let claimSets ← field 4 (nullable (list (list string)))
    let trustedAuthorities ← field 5 (nullable (list TrustedAuthority.read))
    let holderBinding ← field 6 (nullable boolean)
    let multiple ← field 7 (nullable boolean)
    Record.credentialQuery.checkLength items
    return { id, format, constraint, claims, claimSets, trustedAuthorities, holderBinding,
             multiple }
  | found => .error (.wrongType found (.record .credentialQuery))

def CredentialSetRequest.read : Reader CredentialSetRequest
  | .obj members => do
    let options ← member? (list (list string)) "options" members
    let purpose ← member? any "purpose" members
    let required ← optional boolean "required" members
    let purpose ← present "purpose" purpose
    return { purpose, required, options := ← present "options" options }
  | .arr items => do
    let field {α : Type} (position : Nat) (item : Reader α) :=
      element item .credentialSet items position
    let purpose ← field 0 any
    let required ← field 1 (nullable boolean)
    let options ← field 2 (list (list string))
    Record.credentialSet.checkLength items
    return { purpose, required, options }
  | found => .error (.wrongType found (.record .credentialSet))

def Request.read : Reader Request
  | .obj members => do
    let sets ← optional (list CredentialSetRequest.read) "credential_sets" members
    let credentials ← optional (list CredentialRequest.read) "credentials" members
    return { credentials, sets }
  | .arr items => do
    let field {α : Type} (position : Nat) (item : Reader α) :=
      element item .query items position
    let credentials ← field 0 (nullable (list CredentialRequest.read))
    let sets ← field 1 (nullable (list CredentialSetRequest.read))
    Record.query.checkLength items
    return { credentials, sets }
  | found => .error (.wrongType found (.record .query))

def Format.readName : Reader Format := fun value => ofName <$> string value

/-- Settings that are missing have their default values, in both forms of the record. -/
def Tolerance.read : Reader Tolerance
  | .obj members => do
    let legacySdJwt ← member? boolean "accept_legacy_sd_jwt_format" members
    return legacySdJwt.elim .strict Tolerance.mk
  | .arr [] => .ok .strict
  | .arr items => do
    let legacySdJwt ← element boolean .settings items 0
    Record.settings.checkLength items
    return ⟨legacySdJwt⟩
  | found => .error (.wrongType found (.record .settings))

end WalletQuery
