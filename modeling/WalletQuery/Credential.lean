import WalletQuery.Cbor.Basic
import WalletQuery.Dictionary
import WalletQuery.Format
import WalletQuery.Json.Basic

/-! Credentials that a wallet holds. -/
namespace WalletQuery

/-- Data elements of an mdoc, by namespace and element identifier. -/
structure MdocClaims where
  doctype : String
  namespaces : Dictionary (Dictionary Cbor)

namespace MdocClaims

def ofDoctype (doctype : String) : MdocClaims := ⟨doctype, ∅⟩

/-- Sets one data element; its namespace comes to be with its first element. -/
def setElement (claims : MdocClaims) (nameSpace element : String) (value : Cbor) : MdocClaims :=
  let elements := (claims.namespaces.get? nameSpace).getD ∅
  { claims with namespaces := claims.namespaces.insert nameSpace (elements.insert element value) }

def element? (claims : MdocClaims) (nameSpace element : String) : Option Cbor := do
  let elements ← claims.namespaces.get? nameSpace
  elements.get? element

theorem element?_setElement (claims : MdocClaims) (n e nameSpace element : String) (value : Cbor) :
    (claims.setElement n e value).element? nameSpace element =
      if nameSpace = n ∧ element = e then some value else claims.element? nameSpace element := by
  simp only [setElement, element?, Dictionary.get?_insert]
  by_cases hn : nameSpace = n
  · subst hn
    by_cases he : element = e
    · simp [he, Dictionary.get?_insert]
    · simp only [↓reduceIte, Option.bind_eq_bind, Option.bind_some, Dictionary.get?_insert, he,
        and_false]
      cases claims.namespaces.get? nameSpace <;> rfl
  · simp [hn]

instance : BEq MdocClaims :=
  ⟨fun a b => a.doctype == b.doctype && a.namespaces == b.namespaces⟩

end MdocClaims

/-- Disclosable claims of an SD-JWT credential. -/
structure SdJwtClaims where
  vct : String
  members : Dictionary Json

def SdJwtClaims.setClaim (claims : SdJwtClaims) (name : String) (value : Json) : SdJwtClaims :=
  { claims with members := claims.members.insert name value }

instance : BEq SdJwtClaims := ⟨fun a b => a.vct == b.vct && a.members == b.members⟩

inductive Claims where
  | mdoc (claims : MdocClaims)
  | sdJwt (claims : SdJwtClaims)

def Claims.format : Claims → Format
  | mdoc _ => .msoMdoc
  | sdJwt _ => .sdJwtVc

instance : BEq Claims where
  beq
    | .mdoc a, .mdoc b => a == b
    | .sdJwt a, .sdJwt b => a == b
    | _, _ => false

structure Credential where
  id : String
  displayName : Option String := none
  claims : Claims

def Credential.format (credential : Credential) : Format := credential.claims.format

instance : BEq Credential :=
  ⟨fun a b => a.id == b.id && a.displayName == b.displayName && a.claims == b.claims⟩

end WalletQuery
