import WalletQuery.Query.Basic
import WalletQuery.Request.Decode

/-! Building queries from requests. The first rule that a request breaks decides the error. -/
namespace WalletQuery

def nonEmpty {α : Type} (violation : Violation) (items : List α) :
    Except Violation (NonEmptyList α) :=
  match NonEmptyList.ofList? items with
  | some items => .ok items
  | none => .error violation

def Json.string? : Json → Option String
  | .str content => some content
  | _ => none

/-- The items of an array that holds strings only. -/
def Json.strings? : Json → Option (List String)
  | .arr items => items.mapM string?
  | _ => none

/-- Members that the format does not define are left out, unless the format is not known. -/
def Constraint.ofMembers (query : String) (format : Format) (members : Dictionary Json) :
    Except Violation Constraint :=
  match format with
  | .msoMdoc =>
    match members.get? "doctype_value" with
    | some (.str value) => .ok (.doctype value)
    | _ => .error (.noDoctype query)
  | .sdJwtVc =>
    match (members.get? "vct_values").bind Json.strings? with
    | some values => .vct <$> nonEmpty (.noVctValues query) values
    | none => .error (.noVctValues query)
  | .other _ => .ok (.other members)

/-- The intent to retain has a meaning for mdocs only. -/
def ClaimRequest.toClaim (query : String) (format : Format) (request : ClaimRequest) :
    Except Violation Claim := do
  let values ← request.values.mapM (nonEmpty (.emptyValues query))
  return { id := request.id
           path := request.path
           values
           intentToRetain := if format = .msoMdoc then request.intentToRetain else none }

def CredentialRequest.toCredentialQuery (tolerance : Tolerance) (request : CredentialRequest) :
    Except Violation CredentialQuery := do
  let id := request.id
  let format := Format.read tolerance request.format
  let some members := request.constraint | throw (.noMeta id)
  let constraint ← Constraint.ofMembers id format members
  let claims ← nonEmpty (.noClaims id) (request.claims.getD [])
  let claims ← claims.mapM (ClaimRequest.toClaim id format)
  let claimSets ← (request.claimSets.getD []).mapM (nonEmpty (.emptyClaimSet id))
  let trustedAuthorities ← request.trustedAuthorities.mapM (nonEmpty .emptyTrustedAuthorities)
  let query ← CredentialQuery.ofParts id format constraint claims claimSets
  let query := query.set (.trustedAuthorities trustedAuthorities)
  let query := query.set (.holderBinding request.holderBinding)
  return query.set (.multiple request.multiple)

/-- A credential set is required unless it says otherwise. -/
def CredentialSetRequest.toCredentialSet (request : CredentialSetRequest) :
    Except Violation CredentialSet := do
  let options ← request.options.mapM (nonEmpty .emptyOption)
  let options ← nonEmpty .noOptions options
  return { purpose := request.purpose, required := request.required.getD true, options }

def Request.toQuery (tolerance : Tolerance) (request : Request) : Except Violation Query := do
  let credentials ← nonEmpty .noCredentials (request.credentials.getD [])
  let credentials ← credentials.mapM (CredentialRequest.toCredentialQuery tolerance)
  let sets ← (request.sets.getD []).mapM CredentialSetRequest.toCredentialSet
  Query.ofParts credentials sets

/-- Why a JSON value is no query. -/
inductive Malformed where
  | shape (error : ShapeError)
  | rule (violation : Violation)

def Malformed.message : Malformed → String
  | shape error => "malformed DCQL query: " ++ error.message
  | rule violation => "malformed DCQL query: " ++ violation.message

def Query.ofJson (tolerance : Tolerance) (value : Json) : Except Malformed Query := do
  let request ← (Request.read value).mapError .shape
  (request.toQuery tolerance).mapError .rule

end WalletQuery
