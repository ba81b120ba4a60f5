import WalletQuery.Credential
import WalletQuery.NonEmptyList

/-! What a credential query asks of a credential's type, and the trust frameworks to which its
issuer should belong. -/
namespace WalletQuery

inductive Constraint where
  /-- The doctype of an mdoc. -/
  | doctype (value : String)
  /-- The accepted types of an SD-JWT credential. -/
  | vct (values : NonEmptyList String)
  /-- Members that mean something to another format. -/
  | other (members : Dictionary Json)

namespace Constraint

/-- Whether the constraint has the form that the format defines. -/
def appliesTo : Constraint → Format → Bool
  | doctype _, .msoMdoc => true
  | vct _, .sdJwtVc => true
  | other _, .other _ => true
  | _, _ => false

/-- Whether the credential is of a type that is asked for. -/
def accepts (constraint : Constraint) (credential : Credential) : Bool :=
  match constraint, credential.claims with
  | doctype value, .mdoc claims => claims.doctype == value
  | vct values, .sdJwt claims => values.toList.contains claims.vct
  | _, _ => false

instance : BEq Constraint where
  beq
    | .doctype a, .doctype b => a == b
    | .vct a, .vct b => a == b
    | .other a, .other b => a == b
    | _, _ => false

instance : ReflBEq Constraint where
  rfl {constraint} := by
    cases constraint with
    | doctype value => exact beq_self_eq_true value
    | vct values => exact beq_self_eq_true values
    | other members => exact beq_self_eq_true members

theorem format_of_accepts {constraint : Constraint} {credential : Credential} {format : Format}
    (accepted : constraint.accepts credential = true)
    (applies : constraint.appliesTo format = true) :
    credential.format = format := by
  obtain ⟨_, _, claims⟩ := credential
  cases constraint <;> cases claims <;> cases format <;>
    simp_all [accepts, appliesTo, Credential.format, Claims.format]

end Constraint

inductive AuthorityType where
  /-- The key identifier of a certificate's authority. -/
  | aki
  /-- A list of trusted services as defined by ETSI. -/
  | etsiTl
  /-- The trust anchor of an OpenID federation. -/
  | openidFederation
  | other (name : String)
  deriving DecidableEq

namespace AuthorityType

def known : List (String × AuthorityType) :=
  [("aki", aki), ("etsi_tl", etsiTl), ("openid_federation", openidFederation)]

def ofName (name : String) : AuthorityType := (known.lookup name).getD (other name)

def name : AuthorityType → String
  | aki => "aki"
  | etsiTl => "etsi_tl"
  | openidFederation => "openid_federation"
  | other name => name

end AuthorityType

structure TrustedAuthority where
  type : AuthorityType
  values : NonEmptyList String
  deriving DecidableEq

end WalletQuery
