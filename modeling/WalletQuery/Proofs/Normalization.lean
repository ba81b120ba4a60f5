import WalletQuery.Proofs.Request.Built
import WalletQuery.Proofs.Request.Exact
import WalletQuery.Proofs.Request.Normal
import WalletQuery.Proofs.Request.Read

/-! A query that is read from a request in objects is written as the normal form of that request. -/
namespace WalletQuery
open Reader

namespace Json

theorem nonNull_of_ne_null {value : Json} (h : value ≠ null) : value.nonNull = some value := by
  cases value with
  | null => exact absurd rfl h
  | _ => rfl

theorem Canonical.lookup {members : List (String × Json)} (h : (obj members).Canonical)
    {name : String} {value : Json} (found : members.lookup name = some value) :
    value.Canonical :=
  canonicalMembers_iff.1 h.2 _ (Entries.mem_of_lookup found)

theorem Canonical.items {items : List Json} (h : (arr items).Canonical) :
    ∀ item ∈ items, item.Canonical :=
  canonicalItems_iff.1 h

theorem mapItems_arr_eq {α : Type} {r : Json → α → Prop} {normal : Json → Json} {write : α → Json}
    {items : List Json} {values : List α} (related : List.Forall₂ r items values)
    (same : ∀ item ∈ items, ∀ value, r item value → normal item = write value) :
    mapItems normal (arr items) = ofList write values := by
  have each := (List.forall₂_and_left items values).2 ⟨fun item mem => mem, related⟩
  exact congrArg arr (map_eq_map_of_forall₂ each fun item value h => same item h.1 value h.2)

theorem nonEmpty_ofList {α : Type} (write : α → Json) (values : List α) :
    nonEmpty (ofList write values) = ofNonEmpty? write values := by
  cases values <;> rfl

theorem ofNonEmpty?_map {α β : Type} (write : β → Json) (f : α → β) (values : List α) :
    ofNonEmpty? write (values.map f) = ofNonEmpty? (fun value => write (f value)) values := by
  simp [ofNonEmpty?, ofList, Function.comp_def]

/-- No array gets empty by rewriting its items. -/
theorem map_mapItems_nonEmpty (normal : Json → Json) (value : Json) :
    (nonEmpty value).map (mapItems normal) = nonEmpty (mapItems normal value) := by
  cases value with
  | arr items => cases items <;> rfl
  | _ => rfl

theorem IsObject.exists_members {value : Json} (h : value.IsObject) :
    ∃ members, value = obj members := by
  cases value with
  | obj members => exact ⟨members, rfl⟩
  | _ => exact h.elim

theorem lookup_withDefault (name : String) (value : Json) (members : List (String × Json))
    (key : String) :
    (withDefault name value members).lookup key =
      if key = name then some (((members.lookup name).bind nonNull).getD value)
      else members.lookup key := by
  unfold withDefault
  split
  · next absent => rw [Entries.lookup_insert, absent]; rfl
  · next null => rw [Entries.lookup_insert, null]; rfl
  · next other present found =>
    split
    · next same =>
      rw [same, found, Option.bind_some, nonNull_of_ne_null present, Option.getD_some]
    · rfl

theorem ascending_withDefault {members : List (String × Json)} (h : Entries.Ascending members)
    (name : String) (value : Json) : Entries.Ascending (withDefault name value members) := by
  unfold withDefault
  split
  · exact Entries.ascending_insert h
  · exact Entries.ascending_insert h
  · exact h

/-- Only the member with the name is kept. -/
theorem rewrite_singleton {members : List (String × Json)} (ascending : Entries.Ascending members)
    {name : String} {value : Json} (found : members.lookup name = some value) :
    obj (rewrite [(name, some)] members) = ofMembers [(name, some value)] := by
  have fields : AreRewritten members [(name, some value)] [(name, some)] :=
    .cons ⟨rfl, by rw [found, Option.bind_some]⟩ .nil
  exact (fields.ofMembers_eq ascending (List.pairwise_singleton _ name)).symm

end Json

namespace Reader
variable {α β : Type} {item : Reader α} {write : α → Json} {name : String}
  {members : List (String × Json)}

theorem Exact.optional (h : Exact item write) {a? : Option α}
    (read : optional item name members = .ok a?) :
    a?.map write = (members.lookup name).bind Json.nonNull := by
  cases a? with
  | none => rcases lookup_of_optional_none read with absent | null <;> simp [*, Json.nonNull]
  | some a =>
    obtain ⟨value, found, present, read⟩ := optional_eq_ok_some_iff.1 read
    rw [found, Option.bind_some, Json.nonNull_of_ne_null present, h value a read, Option.map_some]

theorem Exact.optional_list (h : Exact item write) {as? : Option (List α)}
    (read : Reader.optional (Reader.list item) name members = .ok as?) :
    Json.ofNonEmpty? write (as?.getD []) = (members.lookup name).bind Json.nonEmpty := by
  cases as? with
  | none =>
    rcases lookup_of_optional_none read with absent | null <;>
      simp [*, Json.nonEmpty, Json.ofNonEmpty?]
  | some as =>
    obtain ⟨value, found, -, read⟩ := optional_eq_ok_some_iff.1 read
    rw [found, Option.bind_some, h.list value as read, Json.nonEmpty_ofList, Option.getD_some]

section
variable {r : α → β → Prop} {normal : Json → Json} {write : β → Json} {p : Json → Prop}
  {bs : List β} (canonical : (Json.obj members).Canonical) (listed : Json.Lists members name p)
  (same : ∀ value a b, value.Canonical → p value → item value = .ok a → r a b →
    normal value = write b)
include canonical listed same

/-- An array of records, each of which is written for what is built of it. -/
theorem mapItems_of_optional_list {as : List α}
    (read : optional (list item) name members = .ok (some as)) (built : List.Forall₂ r as bs) :
    ∃ items, members.lookup name = some (.arr items) ∧
      Json.mapItems normal (.arr items) = Json.ofList write bs := by
  obtain ⟨value, found, -, read⟩ := optional_eq_ok_some_iff.1 read
  obtain ⟨items, rfl, each⟩ := list_eq_ok_iff.1 read
  refine ⟨items, found, Json.mapItems_arr_eq (forall₂_trans each built) ?_⟩
  intro value mem b h
  obtain ⟨a, read, built⟩ := h
  exact same value a b ((canonical.lookup found).items value mem) (listed items found value mem)
    read built

theorem lookup_mapItems_of_ne_nil {as? : Option (List α)}
    (read : optional (list item) name members = .ok as?)
    (built : List.Forall₂ r (as?.getD []) bs) (nonempty : bs ≠ []) :
    (members.lookup name).bind (fun value => some (Json.mapItems normal value)) =
      some (Json.ofList write bs) := by
  cases as? with
  | none => exact absurd (List.forall₂_nil_left_iff.1 built) nonempty
  | some as =>
    obtain ⟨items, found, rewritten⟩ := mapItems_of_optional_list canonical listed same read built
    rw [found]
    exact congrArg some rewritten

theorem lookup_nonEmpty_mapItems {as? : Option (List α)}
    (read : optional (list item) name members = .ok as?)
    (built : List.Forall₂ r (as?.getD []) bs) :
    (members.lookup name).bind (fun value => value.nonEmpty.map (Json.mapItems normal)) =
      Json.ofNonEmpty? write bs := by
  cases as? with
  | none =>
    obtain rfl : bs = [] := List.forall₂_nil_left_iff.1 built
    rcases lookup_of_optional_none read with absent | null
    · rw [absent]
      rfl
    · rw [null]
      rfl
  | some as =>
    obtain ⟨items, found, rewritten⟩ := mapItems_of_optional_list canonical listed same read built
    rw [found, Option.bind_some, Json.map_mapItems_nonEmpty, rewritten, Json.nonEmpty_ofList]

end

end Reader

theorem Claim.ascending_fields (claim : Claim) : Entries.Ascending claim.fields := by
  change List.Pairwise (· < ·) ["id", "intent_to_retain", "path", "values"]
  decide

theorem Claim.normal_eq_toJson {query : String} {format : Format} {value : Json}
    (canonical : value.Canonical) (object : value.IsObject) {request : ClaimRequest} {claim : Claim}
    (read : ClaimRequest.read value = .ok request)
    (built : request.toClaim query format = .ok claim) :
    value.normalClaim format = claim.toJson := by
  obtain ⟨members, rfl⟩ := object.exists_members
  obtain ⟨id, path, values, retain⟩ := ClaimRequest.read_obj_eq_ok_iff.1 read
  obtain ⟨sameId, samePath, sameValues, sameRetain⟩ := ClaimRequest.toClaim_eq_ok_iff.1 built
  have fields : Json.AreRewritten members claim.fields (Json.claimRewriting format) := by
    refine .cons ⟨rfl, ?_⟩ (.cons ⟨rfl, ?_⟩ (.cons ⟨rfl, ?_⟩ (.cons ⟨rfl, ?_⟩ .nil)))
    · rw [← sameId]
      exact exact_string.optional id
    · rw [← sameRetain]
      have kept := exact_boolean.optional retain
      split
      · exact kept
      · simp
    · rw [← samePath, ClaimPath.exact_read.member? path]
      rfl
    · have kept := exact_any.list.optional values
      rw [sameValues, Option.map_map] at kept
      simpa [Function.comp_def, Json.ofList] using kept
  exact (fields.ofMembers_eq canonical.1 claim.ascending_fields).symm

theorem AuthorityType.normalType_of_read {value : Json} {type : AuthorityType}
    (h : AuthorityType.read value = .ok type) : value.normalType = .str type.name := by
  obtain ⟨name, rfl, rfl | rfl⟩ := exists_name_of_read h
  · rw [name_ofName]
    rfl
  · rw [name_ofName]
    rfl

theorem TrustedAuthority.ascending_fields (authority : TrustedAuthority) :
    Entries.Ascending authority.fields := by
  change List.Pairwise (· < ·) ["type", "values"]
  decide

theorem TrustedAuthority.normal_eq_toJson {value : Json} (canonical : value.Canonical)
    (object : value.IsObject) {authority : TrustedAuthority}
    (read : TrustedAuthority.read value = .ok authority) :
    value.normalAuthority = authority.toJson := by
  obtain ⟨members, rfl⟩ := object.exists_members
  obtain ⟨type, values⟩ := TrustedAuthority.read_obj_eq_ok_iff.1 read
  obtain ⟨value, found, type⟩ := member?_eq_ok_some_iff.1 type
  have fields : Json.AreRewritten members authority.fields
      [("type", fun type => Json.normalType type), ("values", some)] := by
    refine .cons ⟨rfl, ?_⟩ (.cons ⟨rfl, ?_⟩ .nil)
    · rw [found]
      exact (congrArg some (AuthorityType.normalType_of_read type)).symm
    · rw [exact_string.nonEmptyList.member? values]
      rfl
  exact (fields.ofMembers_eq canonical.1 authority.ascending_fields).symm

theorem Constraint.normal_eq_toJson {query : String} {format : Format} {value : Json}
    (canonical : value.Canonical) {members : Dictionary Json} {constraint : Constraint}
    (read : Reader.map value = .ok members)
    (built : ofMembers query format members = .ok constraint) :
    Json.normalMeta format value = constraint.toJson := by
  cases value with
  | obj entries =>
    have ascending := canonical.1
    obtain rfl := Except.ok.inj read
    have kept : (Dictionary.ofList entries).entries = entries :=
      Entries.ofList_of_ascending ascending
    cases format with
    | msoMdoc =>
      simp only [ofMembers, Dictionary.get?, kept] at built
      split at built
      · next doctype found =>
        obtain rfl := Except.ok.inj built
        exact Json.rewrite_singleton ascending found
      · contradiction
    | sdJwtVc =>
      simp only [ofMembers, Dictionary.get?, kept] at built
      split at built
      · next texts found =>
        obtain ⟨value, found, strings⟩ := Option.bind_eq_some_iff.1 found
        obtain ⟨values, listed, rfl⟩ := Except.map_eq_ok_iff.1 built
        obtain rfl := nonEmpty_eq_ok_iff.1 listed
        obtain rfl := Json.strings?_eq_some_iff.1 strings
        exact Json.rewrite_singleton ascending found
      · contradiction
    | other name =>
      obtain rfl := Except.ok.inj built
      exact congrArg Json.obj kept.symm
  | _ => contradiction

theorem CredentialRequest.AsksFor.lookup_authorities {tolerance : Tolerance}
    {request : CredentialRequest} {query : CredentialQuery} (asks : request.AsksFor tolerance query)
    {members : List (String × Json)} (canonical : (Json.obj members).Canonical)
    (listed : Json.Lists members "trusted_authorities" Json.IsObject)
    (read : optional (list TrustedAuthority.read) "trusted_authorities" members =
      .ok request.trustedAuthorities) :
    (members.lookup "trusted_authorities").bind
        (fun value => value.nonNull.map (Json.mapItems Json.normalAuthority)) =
      query.trustedAuthorities.map fun authorities =>
        .ofList TrustedAuthority.toJson authorities.toList := by
  rw [asks.authorities] at read
  cases trusted : query.trustedAuthorities with
  | none =>
    rw [trusted] at read
    rcases lookup_of_optional_none read with absent | null
    · rw [absent]
      rfl
    · rw [null]
      rfl
  | some authorities =>
    rw [trusted] at read
    have own : List.Forall₂ (· = ·) authorities.toList authorities.toList := List.forall₂_refl _
    obtain ⟨items, found, rewritten⟩ := mapItems_of_optional_list canonical listed
      (fun value authority _ canonical object read same =>
        same ▸ authority.normal_eq_toJson canonical object read) read own
    rw [found]
    exact congrArg some rewritten

theorem CredentialQuery.ascending_fields (query : CredentialQuery) :
    Entries.Ascending query.fields := by
  change List.Pairwise (· < ·) ["claim_sets", "claims", "format", "id", "meta", "multiple",
    "require_cryptographic_holder_binding", "trusted_authorities"]
  decide

theorem CredentialQuery.areRewritten_fields {members : List (String × Json)}
    (canonical : (Json.obj members).Canonical)
    (objects : (Json.obj members).CredentialInObjects) {request : CredentialRequest}
    {query : CredentialQuery} (read : request.OfMembers members)
    (asks : request.AsksFor .strict query) :
    Json.AreRewritten members query.fields (Json.credentialRewriting query.format) := by
  obtain ⟨claimsListed, authoritiesListed⟩ := objects
  refine .cons ⟨rfl, ?claimSets⟩ (.cons ⟨rfl, ?claims⟩ (.cons ⟨rfl, ?format⟩ (.cons ⟨rfl, ?id⟩
    (.cons ⟨rfl, ?constraint⟩ (.cons ⟨rfl, ?multiple⟩ (.cons ⟨rfl, ?binding⟩
      (.cons ⟨rfl, ?authorities⟩ .nil)))))))
  case claimSets =>
    rw [← exact_string.list.optional_list read.claimSets, asks.claimSets]
    exact (Json.ofNonEmpty?_map (.ofList .str) NonEmptyList.toList query.claimSets).symm
  case claims =>
    refine (lookup_mapItems_of_ne_nil canonical claimsListed ?_ read.claims asks.claims
      query.claims.toList_ne_nil).symm
    exact fun value request claim canonical object read built =>
      claim.normal_eq_toJson canonical object read built
  case format =>
    rw [exact_string.member? read.format, ← asks.format]
    exact congrArg (fun name => some (Json.str name)) (Format.name_ofName request.format)
  case id =>
    rw [exact_string.member? read.id, ← asks.id]
    rfl
  case constraint =>
    obtain ⟨entries, requested, built⟩ := asks.constraint
    have read := read.constraint
    rw [requested] at read
    obtain ⟨value, found, -, read⟩ := optional_eq_ok_some_iff.1 read
    have kept := query.constraint.normal_eq_toJson (canonical.lookup found) read built
    rw [found]
    exact congrArg some kept.symm
  case multiple =>
    rw [← asks.multiple]
    exact exact_boolean.optional read.multiple
  case binding =>
    rw [← asks.holderBinding]
    exact exact_boolean.optional read.binding
  case authorities =>
    rw [← asks.lookup_authorities canonical authoritiesListed read.authorities]

theorem CredentialQuery.normal_eq_toJson {value : Json} (canonical : value.Canonical)
    (objects : value.CredentialInObjects) {request : CredentialRequest} {query : CredentialQuery}
    (read : CredentialRequest.read value = .ok request)
    (built : request.toCredentialQuery .strict = .ok query) :
    value.normalCredential = query.toJson := by
  cases value with
  | obj members =>
    have read := CredentialRequest.read_obj_eq_ok_iff.1 read
    have asks := CredentialRequest.toCredentialQuery_eq_ok_iff.1 built
    have fields := areRewritten_fields canonical objects read asks
    have format : Json.formatOf members = query.format := by
      rw [← asks.format, Json.formatOf, exact_string.member? read.format]
      rfl
    rw [← format] at fields
    exact (fields.ofMembers_eq canonical.1 query.ascending_fields).symm
  | _ => exact objects.elim

theorem CredentialSet.ascending_fields (set : CredentialSet) : Entries.Ascending set.fields := by
  change List.Pairwise (· < ·) ["options", "purpose", "required"]
  decide

theorem CredentialSet.normal_eq_toJson {value : Json} (canonical : value.Canonical)
    (object : value.IsObject) {request : CredentialSetRequest} {set : CredentialSet}
    (read : CredentialSetRequest.read value = .ok request)
    (built : request.toCredentialSet = .ok set) : value.normalSet = set.toJson := by
  obtain ⟨members, rfl⟩ := object.exists_members
  obtain ⟨purpose, required, options⟩ := CredentialSetRequest.read_obj_eq_ok_iff.1 read
  obtain ⟨samePurpose, sameRequired, sameOptions⟩ :=
    CredentialSetRequest.toCredentialSet_eq_ok_iff.1 built
  have fields : Json.AreRewritten (Json.withDefault "required" (.bool true) members) set.fields
      [("options", some), ("purpose", some), ("required", some)] := by
    refine .cons ⟨rfl, ?_⟩ (.cons ⟨rfl, ?_⟩ (.cons ⟨rfl, ?_⟩ .nil))
    · rw [Json.lookup_withDefault, if_neg (by decide), exact_string.list.list.member? options,
        sameOptions]
      simp [Json.ofList, Json.ofStrings, Function.comp_def]
    · rw [Json.lookup_withDefault, if_neg (by decide), exact_any.member? purpose, samePurpose]
      rfl
    · rw [Json.lookup_withDefault, if_pos rfl, ← exact_boolean.optional required, ← sameRequired]
      cases request.required <;> rfl
  have ascending := Json.ascending_withDefault canonical.1 "required" (.bool true)
  exact (fields.ofMembers_eq ascending set.ascending_fields).symm

theorem Query.ascending_fields (query : Query) : Entries.Ascending query.fields := by
  change List.Pairwise (· < ·) ["credential_sets", "credentials"]
  decide

/-- What is written for a query that is read is the normal form of the request. -/
theorem Query.toJson_eq_normalRequest {value : Json} (canonical : value.Canonical)
    (objects : value.RequestInObjects) {query : Query}
    (h : ofJson .strict value = .ok query) : query.toJson = value.normalRequest := by
  simp only [ofJson, Except.bind_eq_ok_iff, Except.mapError_eq_ok_iff,
    Request.toQuery_eq_ok_iff] at h
  obtain ⟨request, read, credentials, sets⟩ := h
  cases value with
  | obj members =>
    obtain ⟨credentialsListed, setsListed⟩ := objects
    obtain ⟨credentialsRead, setsRead⟩ := Request.read_obj_eq_ok_iff.1 read
    have fields : Json.AreRewritten members query.fields
        [("credential_sets", fun sets => (sets.nonEmpty).map (Json.mapItems Json.normalSet)),
         ("credentials", fun credentials => Json.mapItems Json.normalCredential credentials)] := by
      refine .cons ⟨rfl, ?_⟩ (.cons ⟨rfl, ?_⟩ .nil)
      · refine (lookup_nonEmpty_mapItems canonical setsListed ?_ setsRead sets).symm
        exact fun value request set canonical object read built =>
          set.normal_eq_toJson canonical object read built
      · refine (lookup_mapItems_of_ne_nil canonical credentialsListed ?_ credentialsRead credentials
          query.credentials.toList_ne_nil).symm
        exact fun value request query canonical objects read built =>
          query.normal_eq_toJson canonical objects read built
    exact fields.ofMembers_eq canonical.1 query.ascending_fields
  | _ => exact objects.elim

/-- A request with members that are not known, are null or mean nothing to their format. -/
def Json.looseRequest : Json :=
  .obj
    [("client", .str "shop"),
     ("credential_sets", .arr [.obj
      [("hint", .null),
       ("options", .arr [.arr [.str "licence", .str "card"], .arr [.str "card"]]),
       ("purpose", .null),
       ("required", .null)]]),
     ("credentials", .arr
      [.obj
        [("claim_sets", .arr []),
         ("claims", .arr [.obj
          [("id", .null),
           ("intent_to_retain", .bool true),
           ("path", .arr [.str "degrees", .null, .int ⟨1, by decide, by decide⟩]),
           ("rank", .str "first"),
           ("values", .arr [.obj [("kept", .null)], .bool false])]]),
         ("format", .str "dc+sd-jwt"),
         ("id", .str "card"),
         ("meta", .obj [("doctype_value", .str "card"), ("vct_values", .arr [.str "card"])]),
         ("multiple", .null),
         ("trusted_authorities", .arr [.obj
          [("type", .obj [("aki", .null)]), ("url", .str "list"), ("values", .arr [.str "key"])]])],
       .obj
        [("claims", .arr [.obj
          [("intent_to_retain", .bool true), ("path", .arr [.str "space", .str "name"])]]),
         ("format", .str "mso_mdoc"),
         ("id", .str "licence"),
         ("meta", .obj [("doctype_value", .str "licence"), ("vct_values", .null)])]])]

def Json.strictRequest : Json :=
  .obj
    [("credential_sets", .arr [.obj
      [("options", .arr [.arr [.str "licence", .str "card"], .arr [.str "card"]]),
       ("purpose", .null),
       ("required", .bool true)]]),
     ("credentials", .arr
      [.obj
        [("claims", .arr [.obj
          [("path", .arr [.str "degrees", .null, .int ⟨1, by decide, by decide⟩]),
           ("values", .arr [.obj [("kept", .null)], .bool false])]]),
         ("format", .str "dc+sd-jwt"),
         ("id", .str "card"),
         ("meta", .obj [("vct_values", .arr [.str "card"])]),
         ("trusted_authorities", .arr [.obj
          [("type", .str "aki"), ("values", .arr [.str "key"])]])],
       .obj
        [("claims", .arr [.obj
          [("intent_to_retain", .bool true), ("path", .arr [.str "space", .str "name"])]]),
         ("format", .str "mso_mdoc"),
         ("id", .str "licence"),
         ("meta", .obj [("doctype_value", .str "licence")])]])]

theorem toJson_looseRequest :
    Json.looseRequest.Canonical ∧ Json.looseRequest.RequestInObjects ∧
      ∃ query, Query.ofJson .strict .looseRequest = .ok query ∧
        query.toJson = Json.strictRequest := by
  have canonical : Json.looseRequest.Canonical := by decide
  have objects : Json.looseRequest.RequestInObjects := by
    simp [Json.looseRequest, Json.RequestInObjects, Json.CredentialInObjects, Json.Lists,
      Json.IsObject, Entries.lookup_cons]
  have read : ∃ query, Query.ofJson .strict .looseRequest = .ok query := ⟨_, rfl⟩
  obtain ⟨query, read⟩ := read
  refine ⟨canonical, objects, query, read, ?_⟩
  rw [Query.toJson_eq_normalRequest canonical objects read]
  rfl

end WalletQuery
