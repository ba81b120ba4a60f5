import WalletQuery.Credential
import WalletQuery.NonEmptyList

/-! Paths to claims: the steps from the root of a credential's claims to a value, and the value that
a path selects. -/
namespace WalletQuery

inductive PathStep where
  | key (name : String)
  | index (position : UInt64)
  /-- Selects every element of an array. -/
  | wildcard
  deriving DecidableEq

structure ClaimPath where
  steps : NonEmptyList PathStep
  deriving DecidableEq

def PathStep.text : PathStep → String
  | key name => name
  | index position => toString position.toNat
  | wildcard => "*"

def PathStep.key? : PathStep → Option String
  | key name => some name
  | _ => none

namespace ClaimPath

def toList (path : ClaimPath) : List PathStep := path.steps.toList

def text (path : ClaimPath) : String := ".".intercalate (path.toList.map PathStep.text)

/-- The namespace and the element identifier, in a path that addresses an mdoc data element. -/
def namespaceAndElement (path : ClaimPath) : Option (String × String) :=
  match path.toList with
  | [.key nameSpace, .key element] => some (nameSpace, element)
  | _ => none

/-- The last key of the path. -/
def claimName (path : ClaimPath) : Option String := path.toList.reverse.findSome? PathStep.key?

end ClaimPath

inductive PathError where
  | notMdocPath
  | missingRootKey
  | keyNotFound (name : String)
  | notAnObject (name : String)
  | indexOutOfBounds (position : UInt64)
  | notAnArray (position : UInt64)
  | wildcardOnNonArray
  deriving DecidableEq

def PathError.message : PathError → String
  | notMdocPath => "mdoc claims are addressed by exactly [namespace, element identifier]"
  | missingRootKey => "claims path pointer must start with a claim name"
  | keyNotFound name => "key `" ++ name ++ "` not found"
  | notAnObject name => "cannot select key `" ++ name ++ "` from a value that is not an object"
  | indexOutOfBounds position => "index " ++ toString position.toNat ++ " is out of bounds"
  | notAnArray position =>
    "cannot select index " ++ toString position.toNat ++ " from a value that is not an array"
  | wildcardOnNonArray => "cannot select all elements of a value that is not an array"

/-- Follows the steps from a value. A wildcard follows the rest of the path from every element and
collects the results; the first element from which it fails decides the error. -/
def Json.select : List PathStep → Json → Except PathError Json
  | [], value => .ok value
  | .key name :: rest, .obj members =>
    match members.lookup name with
    | some value => select rest value
    | none => .error (.keyNotFound name)
  | .key name :: _, _ => .error (.notAnObject name)
  | .index position :: rest, .arr items =>
    match items[position.toNat]? with
    | some value => select rest value
    | none => .error (.indexOutOfBounds position)
  | .index position :: _, _ => .error (.notAnArray position)
  | .wildcard :: rest, .arr items => .arr <$> items.mapM (select rest)
  | .wildcard :: _, _ => .error .wildcardOnNonArray

/-- The first step names a claim. -/
def SdJwtClaims.resolve (claims : SdJwtClaims) (path : List PathStep) : Except PathError Json :=
  match path with
  | .key root :: rest =>
    match claims.members.get? root with
    | some value => value.select rest
    | none => .error (.keyNotFound root)
  | _ => .error .missingRootKey

/-- Data elements have no inner structure that a path could enter. -/
def MdocClaims.resolve (claims : MdocClaims) (path : ClaimPath) : Except PathError Cbor :=
  match path.namespaceAndElement with
  | some (nameSpace, element) =>
    match claims.element? nameSpace element with
    | some value => .ok value
    | none => .error (.keyNotFound (nameSpace ++ "/" ++ element))
  | none => .error .notMdocPath

end WalletQuery
