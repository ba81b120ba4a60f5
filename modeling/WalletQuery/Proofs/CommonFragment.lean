import WalletQuery.Proofs.ClaimChoice
import WalletQuery.Proofs.Location

/-! An mdoc, and an SD-JWT credential that holds the same elements in JSON. Queries whose paths are
those of data elements get the same answer from both. -/
namespace WalletQuery

/-- Each namespace becomes an object of its elements. -/
def MdocClaims.toSdJwt (claims : MdocClaims) (vct : String) : SdJwtClaims where
  vct := vct
  members := claims.namespaces.map fun elements => .obj (elements.map Cbor.toJson).entries

def ClaimPath.IsElement (path : ClaimPath) : Prop :=
  ∃ nameSpace element, path.toList = [.key nameSpace, .key element]

theorem MdocClaims.resolve_eq_ok_iff {claims : MdocClaims} {path : ClaimPath}
    {nameSpace element : String} (keys : path.toList = [.key nameSpace, .key element])
    {value : Cbor} :
    claims.resolve path = .ok value ↔ claims.element? nameSpace element = some value := by
  have addressed := ClaimPath.namespaceAndElement_eq_some_iff.2 keys
  simp only [resolve, addressed]
  cases claims.element? nameSpace element <;> simp

/-- The two keys lead through the object of the namespace to the element. -/
theorem MdocClaims.resolve_toSdJwt_eq_ok_iff {claims : MdocClaims} {vct : String}
    {nameSpace element : String} {value : Json} :
    (claims.toSdJwt vct).resolve [.key nameSpace, .key element] = .ok value ↔
      ∃ item, claims.element? nameSpace element = some item ∧ item.toJson = value := by
  simp only [SdJwtClaims.resolve, toSdJwt, Dictionary.get?_map, element?]
  cases claims.namespaces.get? nameSpace with
  | none => simp
  | some elements =>
    have members : (elements.map Cbor.toJson).entries.lookup element =
        (elements.get? element).map Cbor.toJson := Dictionary.get?_map _ _ _
    simp only [Option.map_some, Json.select, members]
    cases found : elements.get? element <;> simp [found]

theorem ClaimValue.isAccepted_json_toJson (value : ClaimValue)
    (accepted : Option (NonEmptyList Json)) :
    (ClaimValue.json value.toJson).isAccepted accepted = value.isAccepted accepted :=
  isAccepted_congr rfl accepted

/-- The same claim with its value in JSON. -/
def Disclosure.inJson (disclosure : Disclosure) : Disclosure :=
  (disclosure.1, .json disclosure.2.toJson)

section
variable {mdoc sdJwt : Credential} {claims : MdocClaims} {vct : String}
  (inMdoc : mdoc.claims = .mdoc claims) (inSdJwt : sdJwt.claims = .sdJwt (claims.toSdJwt vct))
include inMdoc inSdJwt

theorem Credential.resolve_eq_ok_iff_of_toSdJwt {path : ClaimPath} (element : path.IsElement)
    {value : ClaimValue} :
    sdJwt.resolve path = .ok value ↔
      ∃ original, mdoc.resolve path = .ok original ∧ .json original.toJson = value := by
  obtain ⟨nameSpace, element, keys⟩ := element
  simp only [resolve, inMdoc, inSdJwt, keys, Except.map_eq_ok_iff,
    MdocClaims.resolve_eq_ok_iff keys, MdocClaims.resolve_toSdJwt_eq_ok_iff]
  constructor
  · rintro ⟨_, ⟨item, found, rfl⟩, rfl⟩
    exact ⟨.mdoc item, ⟨item, found, rfl⟩, rfl⟩
  · rintro ⟨_, ⟨item, found, rfl⟩, rfl⟩
    exact ⟨item.toJson, ⟨item, found, rfl⟩, rfl⟩

theorem Credential.disclose?_of_toSdJwt {claim : Claim} (element : claim.path.IsElement) :
    sdJwt.disclose? claim = Disclosure.inJson <$> mdoc.disclose? claim := by
  ext disclosure
  rw [Option.map_eq_map, Option.map_eq_some_iff]
  simp only [disclose?_eq_some_iff, Discloses]
  constructor
  · rintro ⟨rfl, resolved, accepted⟩
    obtain ⟨original, found, same⟩ :=
      (resolve_eq_ok_iff_of_toSdJwt inMdoc inSdJwt element).1 resolved
    rw [← same, ClaimValue.isAccepted_json_toJson] at accepted
    exact ⟨(disclosure.1, original), ⟨rfl, found, accepted⟩, Prod.ext rfl same⟩
  · rintro ⟨⟨_, original⟩, ⟨rfl, found, accepted⟩, rfl⟩
    have resolved := (resolve_eq_ok_iff_of_toSdJwt inMdoc inSdJwt element).2 ⟨original, found, rfl⟩
    exact ⟨rfl, resolved, (ClaimValue.isAccepted_json_toJson _ _).trans accepted⟩

/-- As each claim is disclosed alike, the same claim set is chosen, if one is. -/
theorem match?_eq_map_inJson {query : CredentialQuery}
    (elements : ∀ claim ∈ query.claims.toList, claim.path.IsElement) :
    query.match? sdJwt = List.map Disclosure.inJson <$> query.match? mdoc :=
  CredentialQuery.match?_map_of_disclose? fun claim mem =>
    Credential.disclose?_of_toSdJwt inMdoc inSdJwt (elements claim mem)

/-- For paths of two keys it makes no difference whether the elements are held in an mdoc or, in
JSON, in an SD-JWT credential: neither matches, or both do with the same claims and values. -/
theorem match?_agrees_across_formats {query : CredentialQuery}
    (elements : ∀ claim ∈ query.claims.toList, claim.path.IsElement) :
    (query.match? mdoc = none ∧ query.match? sdJwt = none) ∨
    ∃ disclosures others, query.match? mdoc = some disclosures ∧
      query.match? sdJwt = some others ∧
      List.Forall₂ (fun d other => d.1 = other.1 ∧ d.2.toJson = other.2.toJson) disclosures
        others := by
  have same := match?_eq_map_inJson inMdoc inSdJwt elements
  cases matched : query.match? mdoc with
  | none =>
    rw [matched] at same
    exact .inl ⟨rfl, same⟩
  | some disclosures =>
    rw [matched] at same
    refine .inr ⟨disclosures, _, rfl, same, ?_⟩
    rw [List.forall₂_map_right_iff, List.forall₂_same]
    exact fun _ _ => ⟨rfl, rfl⟩

end

def Credential.licenceInJson : Credential where
  id := "licence in JSON"
  claims := .sdJwt (MdocClaims.licence.toSdJwt "licence")

/-- Both credentials lack the first claim set, and the accepted age is a number in either. -/
theorem match?_licence_across_formats :
    let query := CredentialQuery.licence [⟨"name", ["adult"]⟩, ⟨"age", ["name", "age"]⟩]
    let values := [(Claim.age, Cbor.age.toJson), (.ofElement "name", .str "David"),
      (.age, Cbor.age.toJson)]
    Credential.licence.claims = .mdoc .licence ∧
      Credential.licenceInJson.claims = .sdJwt (MdocClaims.licence.toSdJwt "licence") ∧
      (∀ claim ∈ query.claims.toList, claim.path.IsElement) ∧
      query.match? .licenceInJson = some (values.map fun value => (value.1, .json value.2)) ∧
      ∃ disclosures others, query.match? .licence = some disclosures ∧
        query.match? .licenceInJson = some others ∧
        List.Forall₂ (fun d other => d.1 = other.1 ∧ d.2.toJson = other.2.toJson) disclosures
          others := by
  intro query values
  have inMdoc : Credential.licence.claims = .mdoc .licence := rfl
  have inSdJwt :
      Credential.licenceInJson.claims = .sdJwt (MdocClaims.licence.toSdJwt "licence") := rfl
  have elements : ∀ claim ∈ query.claims.toList, claim.path.IsElement :=
    List.forall_iff_forall_mem.1 ⟨⟨_, _, rfl⟩, ⟨_, _, rfl⟩, ⟨_, _, rfl⟩, ⟨_, _, rfl⟩⟩
  have matched : query.match? .licenceInJson =
      some (values.map fun value => (value.1, .json value.2)) := rfl
  refine ⟨inMdoc, inSdJwt, elements, matched, ?_⟩
  rcases match?_agrees_across_formats inMdoc inSdJwt elements with ⟨-, none⟩ | both
  · rw [matched] at none
    contradiction
  · exact both

end WalletQuery
