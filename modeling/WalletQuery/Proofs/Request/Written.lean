import WalletQuery.Proofs.Request.Read

/-! The request that a query is written as: reading the JSON value of a query gives it, if the types
of the trusted authorities are not named like those that the query language knows. -/
namespace WalletQuery
open Reader

/-- No query that is read has another form, and none of another form is read back. -/
structure CredentialQuery.Portable (query : CredentialQuery) : Prop where
  format : query.format ≠ .other "mso_mdoc" ∧ query.format ≠ .other "dc+sd-jwt"
  retain : query.format ≠ .msoMdoc → ∀ claim ∈ query.claims.toList, claim.intentToRetain = none
  authorities : ∀ authorities, query.trustedAuthorities = some authorities →
    ∀ authority ∈ authorities.toList, authority.type ≠ .other "aki" ∧
      authority.type ≠ .other "etsi_tl" ∧ authority.type ≠ .other "openid_federation"

def Query.Portable (query : Query) : Prop := ∀ q ∈ query.credentials.toList, q.Portable

def Claim.toRequest (claim : Claim) : ClaimRequest where
  id := claim.id
  path := claim.path
  values := claim.values.map NonEmptyList.toList
  intentToRetain := claim.intentToRetain

def Constraint.members : Constraint → Dictionary Json
  | doctype value => .ofList [("doctype_value", .str value)]
  | vct values => .ofList [("vct_values", .ofStrings values)]
  | other members => members

def CredentialQuery.toRequest (query : CredentialQuery) : CredentialRequest where
  id := query.id
  format := query.format.name
  constraint := some query.constraint.members
  claims := some (query.claims.toList.map Claim.toRequest)
  claimSets := (listed? query.claimSets).map (·.map NonEmptyList.toList)
  trustedAuthorities := query.trustedAuthorities.map NonEmptyList.toList
  holderBinding := query.holderBinding
  multiple := query.multiple

def CredentialSet.toRequest (set : CredentialSet) : CredentialSetRequest where
  purpose := set.purpose
  required := some set.required
  options := set.options.toList.map NonEmptyList.toList

def Query.toRequest (query : Query) : Request where
  credentials := some (query.credentials.toList.map CredentialQuery.toRequest)
  sets := (listed? query.sets).map (·.map CredentialSet.toRequest)

theorem PathStep.read_toJson (step : PathStep) : PathStep.read step.toJson = .ok step := by
  cases step with
  | key name => rfl
  | index position => simp [PathStep.toJson, PathStep.read]
  | wildcard => rfl

theorem ClaimPath.read_toJson (path : ClaimPath) : ClaimPath.read path.toJson = .ok path := by
  have steps : nonEmptyList PathStep.read path.toJson = .ok path.steps :=
    nonEmptyList_ofList fun step _ => step.read_toJson
  simp [ClaimPath.read, steps, Functor.map, Except.map]

theorem AuthorityType.ofName_name_iff {type : AuthorityType} :
    ofName type.name = type ↔
      type ≠ .other "aki" ∧ type ≠ .other "etsi_tl" ∧ type ≠ .other "openid_federation" := by
  cases type with
  | aki => decide
  | etsiTl => decide
  | openidFederation => decide
  | other name =>
    simp only [ofName, known, AuthorityType.name, Entries.lookup_cons]
    split
    · next h => simp [h]
    · split
      · next h => simp [h]
      · split
        · next h => simp [h]
        · simp_all

theorem TrustedAuthority.read_toJson {authority : TrustedAuthority}
    (h : AuthorityType.ofName authority.type.name = authority.type) :
    TrustedAuthority.read authority.toJson = .ok authority := by
  have distinct : (authority.fields.map Prod.fst).Nodup := by simp [TrustedAuthority.fields]
  apply read_obj_eq_ok_iff.2
  constructor
  · exact member?_written distinct rfl (congrArg Except.ok h)
  · exact member?_written distinct rfl (nonEmptyList_ofList fun _ _ => rfl)

theorem Claim.read_toJson (claim : Claim) :
    ClaimRequest.read claim.toJson = .ok claim.toRequest := by
  have distinct : (claim.fields.map Prod.fst).Nodup := by simp [Claim.fields]
  apply ClaimRequest.read_obj_eq_ok_iff.2
  refine ⟨?_, ?_, ?_, ?_⟩
  · exact optional_written_self distinct rfl fun _ _ => ⟨nofun, rfl⟩
  · exact member?_written distinct rfl claim.path.read_toJson
  · exact optional_written distinct rfl fun values _ => ⟨nofun, list_any values.toList⟩
  · exact optional_written_self distinct rfl fun _ _ => ⟨nofun, rfl⟩

theorem Constraint.map_toJson (constraint : Constraint) :
    Reader.map constraint.toJson = .ok constraint.members := by
  cases constraint with
  | doctype value => rfl
  | vct values => rfl
  | other members => simp [toJson, Constraint.members, Reader.map]

theorem CredentialQuery.ofMembers_toRequest {query : CredentialQuery} (h : query.Portable) :
    query.toRequest.OfMembers (writtenMembers query.fields) := by
  have distinct : (query.fields.map Prod.fst).Nodup := by simp [CredentialQuery.fields]
  constructor
  case id => exact member?_written distinct rfl rfl
  case format => exact member?_written distinct rfl rfl
  case constraint =>
    have written : query.fields.lookup "meta" =
        some ((some query.constraint).map Constraint.toJson) := rfl
    refine optional_written distinct written fun constraint _ => ⟨?_, constraint.map_toJson⟩
    cases constraint <;> nofun
  case claims =>
    have written : query.fields.lookup "claims" =
        some ((some query.claims.toList).map (.ofList Claim.toJson)) := rfl
    exact optional_written distinct written fun claims _ =>
      ⟨nofun, list_ofList fun claim _ => claim.read_toJson⟩
  case claimSets =>
    refine optional_written distinct (congrArg some (ofNonEmpty?_eq _ _)) fun sets _ => ⟨nofun, ?_⟩
    exact list_ofList fun set _ => string_ofStrings set
  case authorities =>
    refine optional_written distinct rfl fun authorities written => ⟨nofun, ?_⟩
    refine list_ofList_self fun authority mem => authority.read_toJson ?_
    exact AuthorityType.ofName_name_iff.2 (h.authorities authorities written authority mem)
  case binding => exact optional_written_self distinct rfl fun _ _ => ⟨nofun, rfl⟩
  case multiple => exact optional_written_self distinct rfl fun _ _ => ⟨nofun, rfl⟩

theorem CredentialQuery.read_toJson {query : CredentialQuery} (h : query.Portable) :
    CredentialRequest.read query.toJson = .ok query.toRequest :=
  CredentialRequest.read_obj_eq_ok_iff.2 (ofMembers_toRequest h)

theorem CredentialSet.read_toJson (set : CredentialSet) :
    CredentialSetRequest.read set.toJson = .ok set.toRequest := by
  have distinct : (set.fields.map Prod.fst).Nodup := by simp [CredentialSet.fields]
  have required : set.fields.lookup "required" = some ((some set.required).map .bool) := rfl
  apply CredentialSetRequest.read_obj_eq_ok_iff.2
  refine ⟨?_, ?_, ?_⟩
  · exact member?_written distinct rfl rfl
  · exact optional_written_self distinct required fun _ _ => ⟨nofun, rfl⟩
  · exact member?_written distinct rfl (list_ofList fun option _ => string_ofStrings option)

theorem Query.read_toJson {query : Query} (h : query.Portable) :
    Request.read query.toJson = .ok query.toRequest := by
  have distinct : (query.fields.map Prod.fst).Nodup := by simp [Query.fields]
  have written : query.fields.lookup "credentials" =
      some ((some query.credentials.toList).map (.ofList CredentialQuery.toJson)) := rfl
  apply Request.read_obj_eq_ok_iff.2
  constructor
  · refine optional_written distinct written fun queries all => ⟨nofun, ?_⟩
    obtain rfl := Option.some.inj all
    exact list_ofList fun q mem => q.read_toJson (h q mem)
  · refine optional_written distinct (congrArg some (ofNonEmpty?_eq _ _)) fun sets _ => ⟨nofun, ?_⟩
    exact list_ofList fun set _ => set.read_toJson

end WalletQuery
