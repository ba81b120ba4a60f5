import WalletQuery.Format
import WalletQuery.Proofs.Dictionary
import WalletQuery.Proofs.Request.Reader

/-! The normal form of a request that is written in objects. It is the request itself but for what
the rewritings of the members of its records say. -/
namespace WalletQuery.Json

/-- What becomes of the members of an object: a member may get another value or be removed, and
those that are not named are removed. -/
abbrev Rewriting := List (String × (Json → Option Json))

def Rewriting.value? (rewriting : Rewriting) (name : String) (value : Json) : Option Json :=
  (rewriting.lookup name).bind fun change => change value

def rewrite (rewriting : Rewriting) (members : List (String × Json)) : List (String × Json) :=
  members.filterMap fun member => (rewriting.value? member.1 member.2).map (member.1, ·)

/-- Removes null. -/
def nonNull : Json → Option Json
  | null => none
  | value => some value

/-- Removes null and the empty array. -/
def nonEmpty : Json → Option Json
  | null => none
  | arr [] => none
  | value => some value

def mapItems (f : Json → Json) : Json → Json
  | arr items => arr (items.map f)
  | value => value

def mapMembers (f : List (String × Json) → List (String × Json)) : Json → Json
  | obj members => obj (f members)
  | value => value

/-- A member that is missing or null gets the value. -/
def withDefault (name : String) (value : Json) (members : List (String × Json)) :
    List (String × Json) :=
  match members.lookup name with
  | none | some null => Entries.insert name value members
  | some _ => members

def claimRewriting (format : Format) : Rewriting :=
  [("id", nonNull),
   ("intent_to_retain", if format = .msoMdoc then nonNull else fun _ => none),
   ("path", some),
   ("values", nonNull)]

def normalClaim (format : Format) : Json → Json := mapMembers (rewrite (claimRewriting format))

/-- A type that is the only member of an object is written by its name. -/
def normalType : Json → Json
  | obj [(name, null)] => str name
  | value => value

def normalAuthority : Json → Json :=
  mapMembers (rewrite [("type", fun type => normalType type), ("values", some)])

/-- Only the member that the format defines is kept, unless the format is not known. -/
def normalMeta : Format → Json → Json
  | .msoMdoc => mapMembers (rewrite [("doctype_value", some)])
  | .sdJwtVc => mapMembers (rewrite [("vct_values", some)])
  | .other _ => fun value => value

def credentialRewriting (format : Format) : Rewriting :=
  [("claim_sets", nonEmpty),
   ("claims", fun claims => mapItems (normalClaim format) claims),
   ("format", some),
   ("id", some),
   ("meta", fun value => normalMeta format value),
   ("multiple", nonNull),
   ("require_cryptographic_holder_binding", nonNull),
   ("trusted_authorities", fun authorities => (nonNull authorities).map (mapItems normalAuthority))]

def formatOf (members : List (String × Json)) : Format :=
  match members.lookup "format" with
  | some (str name) => .ofName name
  | _ => .other ""

def normalCredential : Json → Json :=
  mapMembers fun members => rewrite (credentialRewriting (formatOf members)) members

def normalSet : Json → Json :=
  mapMembers fun members =>
    rewrite [("options", some), ("purpose", some), ("required", some)]
      (withDefault "required" (bool true) members)

def normalRequest : Json → Json :=
  mapMembers (rewrite
    [("credential_sets", fun sets => (nonEmpty sets).map (mapItems normalSet)),
     ("credentials", fun credentials => mapItems normalCredential credentials)])

def IsObject : Json → Prop
  | obj _ => True
  | _ => False

/-- The items of the array with the name are as they should be, if there is one. -/
def Lists (members : List (String × Json)) (name : String) (p : Json → Prop) : Prop :=
  ∀ items, members.lookup name = some (arr items) → ∀ item ∈ items, p item

def CredentialInObjects : Json → Prop
  | obj members => Lists members "claims" IsObject ∧ Lists members "trusted_authorities" IsObject
  | _ => False

/-- Each record of the request is written as an object. -/
def RequestInObjects : Json → Prop
  | obj members =>
    Lists members "credentials" CredentialInObjects ∧ Lists members "credential_sets" IsObject
  | _ => False

theorem rewrite_cons (rewriting : Rewriting) (name : String) (value : Json)
    (members : List (String × Json)) :
    rewrite rewriting ((name, value) :: members) =
      match rewriting.value? name value with
      | some value => (name, value) :: rewrite rewriting members
      | none => rewrite rewriting members := by
  unfold rewrite
  rw [List.filterMap_cons]
  cases rewriting.value? name value <;> rfl

theorem lookup_rewrite {members : List (String × Json)} (ascending : Entries.Ascending members)
    (rewriting : Rewriting) (name : String) :
    (rewrite rewriting members).lookup name =
      (members.lookup name).bind (rewriting.value? name) := by
  induction members with
  | nil => rfl
  | cons member rest ih =>
    obtain ⟨first, value⟩ := member
    obtain ⟨least, ascending⟩ := Entries.ascending_cons_iff.1 ascending
    have ih := ih ascending
    rw [rewrite_cons, Entries.lookup_cons]
    by_cases same : name = first
    · subst same
      rw [Entries.lookup_eq_none_of_lt least] at ih
      rw [if_pos rfl, Option.bind_some]
      split
      · next changed => rw [Entries.lookup_cons, if_pos rfl, changed]
      · next removed => rw [ih, removed, Option.bind_none]
    · rw [if_neg same]
      split
      · rw [Entries.lookup_cons, if_neg same, ih]
      · exact ih

theorem ascending_rewrite {members : List (String × Json)} (ascending : Entries.Ascending members)
    (rewriting : Rewriting) : Entries.Ascending (rewrite rewriting members) := by
  refine Entries.ascending_filterMap ascending fun member other changed => ?_
  obtain ⟨_, -, rfl⟩ := Option.map_eq_some_iff.1 changed
  rfl

theorem ascending_writtenMembers {fields : List (String × Option Json)}
    (order : Entries.Ascending fields) : Entries.Ascending (writtenMembers fields) := by
  refine Entries.ascending_filterMap order fun field other written => ?_
  obtain ⟨_, -, rfl⟩ := Option.map_eq_some_iff.1 written
  rfl

/-- Each of the fields is what becomes of the member that goes by its name. -/
def AreRewritten (members : List (String × Json)) (fields : List (String × Option Json))
    (rewriting : Rewriting) : Prop :=
  List.Forall₂ (fun field rule => field.1 = rule.1 ∧
    field.2 = (members.lookup rule.1).bind rule.2) fields rewriting

theorem AreRewritten.lookup_eq {members : List (String × Json)}
    {fields : List (String × Option Json)} {rewriting : Rewriting}
    (h : AreRewritten members fields rewriting) (name : String) :
    (fields.lookup name).join = (members.lookup name).bind (rewriting.value? name) := by
  unfold Rewriting.value?
  induction h with
  | nil => simp
  | @cons field rule _ _ head _ ih =>
    obtain ⟨key, value⟩ := field
    obtain ⟨key', change⟩ := rule
    obtain ⟨same, becomes⟩ : key = key' ∧ value = (members.lookup key').bind change := head
    subst same becomes
    simp only [Entries.lookup_cons]
    split
    · next same => simp [same]
    · exact ih

theorem AreRewritten.ofMembers_eq {members : List (String × Json)}
    {fields : List (String × Option Json)} {rewriting : Rewriting}
    (h : AreRewritten members fields rewriting) (ascending : Entries.Ascending members)
    (order : Entries.Ascending fields) : ofMembers fields = obj (rewrite rewriting members) := by
  have same : writtenMembers fields = rewrite rewriting members := by
    refine Entries.eq_of_lookup_eq (ascending_writtenMembers order)
      (ascending_rewrite ascending rewriting) fun name => ?_
    rw [lookup_writtenMembers (Entries.nodup_of_ascending order), lookup_rewrite ascending,
      h.lookup_eq]
  exact congrArg obj same

end WalletQuery.Json
