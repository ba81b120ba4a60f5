import WalletQuery.Json.Text
import WalletQuery.NonEmptyList
import WalletQuery.Text.Quoted

/-! Readers of JSON values that have to be of a given shape, and the errors if one is not. -/
namespace WalletQuery

/-- The records of which a request is made, and the settings of the wallet. -/
inductive Record where
  | query
  | credentialQuery
  | claim
  | credentialSet
  | trustedAuthority
  | settings
  deriving DecidableEq

def Record.name : Record → String
  | query => "DcqlQueryRequest"
  | credentialQuery => "CredentialQueryRequest"
  | claim => "ClaimRequest"
  | credentialSet => "CredentialSetQueryRequest"
  | trustedAuthority => "TrustedAuthoritiesQuery"
  | settings => "Config"

def Record.fieldCount : Record → Nat
  | query => 2
  | credentialQuery => 8
  | claim => 4
  | credentialSet => 3
  | trustedAuthority => 2
  | settings => 1

inductive Expectation where
  | string
  | boolean
  | sequence
  | map
  | record (kind : Record)
  deriving DecidableEq

def Expectation.text : Expectation → String
  | string => "a string"
  | boolean => "a boolean"
  | sequence => "a sequence"
  | map => "a map"
  | record kind => "struct " ++ kind.name

inductive ShapeError where
  | wrongType (found : Json) (expected : Expectation)
  | missingField (name : String)
  /-- An array with fewer elements than the record has fields. -/
  | tooFew (length : Nat) (record : Record)
  | tooMany (length : Nat)
  | pathStep
  | authorityType
  | emptyList

/-- What a value is called where it is not expected. -/
def Json.description : Json → String
  | .null => "null"
  | .bool value => "boolean `" ++ (Json.bool value).text ++ "`"
  | .int value => "integer `" ++ toString value.val ++ "`"
  | .float value => "floating point `" ++ Decimal.Layout.standard.text value.val ++ "`"
  | .str content => "string " ++ Text.quoteVisibly content
  | .arr _ => "sequence"
  | .obj _ => "map"

def ShapeError.message : ShapeError → String
  | wrongType found expected =>
    "invalid type: " ++ found.description ++ ", expected " ++ expected.text
  | missingField name => "missing field `" ++ name ++ "`"
  | tooFew length record =>
    "invalid length " ++ toString length ++ ", expected struct " ++ record.name ++ " with " ++
      toString record.fieldCount ++ (if record.fieldCount = 1 then " element" else " elements")
  | tooMany length => "invalid length " ++ toString length ++ ", expected fewer elements in array"
  | pathStep => "data did not match any variant of untagged enum PathElement"
  | authorityType => "data did not match any variant of untagged enum TrustedAuthorityType"
  | emptyList => NonEmptyList.emptyMessage

/-- A reader of values of one shape. -/
abbrev Reader (α : Type) := Json → Except ShapeError α

namespace Reader
variable {α : Type}

def any : Reader Json := .ok

def string : Reader String
  | .str content => .ok content
  | found => .error (.wrongType found .string)

def boolean : Reader Bool
  | .bool value => .ok value
  | found => .error (.wrongType found .boolean)

def map : Reader (Dictionary Json)
  | .obj members => .ok (.ofList members)
  | found => .error (.wrongType found .map)

/-- Elements are read in order. -/
def list (item : Reader α) : Reader (List α)
  | .arr items => items.mapM item
  | found => .error (.wrongType found .sequence)

/-- Emptiness is found after all elements are read. -/
def nonEmptyList (item : Reader α) : Reader (NonEmptyList α) := fun value => do
  match NonEmptyList.ofList? (← list item value) with
  | some items => .ok items
  | none => .error .emptyList

def nullable (item : Reader α) : Reader (Option α)
  | .null => .ok none
  | value => some <$> item value

/-- Reads a member of an object, if it is there. -/
def member? (item : Reader α) (name : String) (members : List (String × Json)) :
    Except ShapeError (Option α) :=
  match members.lookup name with
  | some value => some <$> item value
  | none => .ok none

/-- Reads a member that may be missing or null. -/
def optional (item : Reader α) (name : String) (members : List (String × Json)) :
    Except ShapeError (Option α) :=
  Option.join <$> member? (nullable item) name members

/-- Reads the element for the field at a position of a record that is written as an array. -/
def element (item : Reader α) (record : Record) (items : List Json) (position : Nat) :
    Except ShapeError α :=
  match items[position]? with
  | some value => item value
  | none => .error (.tooFew items.length record)

end Reader

/-- The value of a field that has to be there. -/
def present {α : Type} (name : String) : Option α → Except ShapeError α
  | some value => .ok value
  | none => .error (.missingField name)

/-- Checks that an array has no elements but those for the fields of the record. -/
def Record.checkLength (record : Record) (items : List Json) : Except ShapeError Unit :=
  if record.fieldCount < items.length then .error (.tooMany items.length) else .ok ()

end WalletQuery
