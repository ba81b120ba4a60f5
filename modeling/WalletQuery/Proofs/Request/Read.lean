import WalletQuery.Proofs.Request.Reader

/-! Which request is read from a record: one whose fields are read from the members of the object,
or from the items of the array. -/
namespace WalletQuery
open Reader

theorem TrustedAuthority.read_obj_eq_ok_iff {members : List (String × Json)}
    {authority : TrustedAuthority} :
    TrustedAuthority.read (.obj members) = .ok authority ↔
      member? AuthorityType.read "type" members = .ok (some authority.type) ∧
      member? (nonEmptyList string) "values" members = .ok (some authority.values) := by
  simp only [TrustedAuthority.read, Except.bind_eq_ok_iff, present_eq_ok_iff]
  constructor
  · intro h
    obtain ⟨_, type, _, values, _, rfl, _, rfl, h⟩ := h
    obtain rfl := Except.ok.inj h
    exact ⟨type, values⟩
  · intro ⟨type, values⟩
    exact ⟨_, type, _, values, _, rfl, _, rfl, rfl⟩

theorem ClaimRequest.read_obj_eq_ok_iff {members : List (String × Json)} {request : ClaimRequest} :
    ClaimRequest.read (.obj members) = .ok request ↔
      optional string "id" members = .ok request.id ∧
      member? ClaimPath.read "path" members = .ok (some request.path) ∧
      optional (list any) "values" members = .ok request.values ∧
      optional boolean "intent_to_retain" members = .ok request.intentToRetain := by
  simp only [ClaimRequest.read, Except.bind_eq_ok_iff, present_eq_ok_iff]
  constructor
  · intro h
    obtain ⟨_, id, _, retain, _, path, _, values, _, rfl, h⟩ := h
    obtain rfl := Except.ok.inj h
    exact ⟨id, path, values, retain⟩
  · intro ⟨id, path, values, retain⟩
    exact ⟨_, id, _, retain, _, path, _, values, _, rfl, rfl⟩

/-- The fields of the request are read from the members of an object. -/
structure CredentialRequest.OfMembers (request : CredentialRequest)
    (members : List (String × Json)) : Prop where
  id : member? string "id" members = .ok (some request.id)
  format : member? string "format" members = .ok (some request.format)
  constraint : optional map "meta" members = .ok request.constraint
  claims : optional (list ClaimRequest.read) "claims" members = .ok request.claims
  claimSets : optional (list (list string)) "claim_sets" members = .ok request.claimSets
  authorities : optional (list TrustedAuthority.read) "trusted_authorities" members =
    .ok request.trustedAuthorities
  binding : optional boolean "require_cryptographic_holder_binding" members =
    .ok request.holderBinding
  multiple : optional boolean "multiple" members = .ok request.multiple

/-- The fields of the request are read from the items of an array. -/
structure CredentialRequest.OfItems (request : CredentialRequest) (items : List Json) : Prop where
  id : element string .credentialQuery items 0 = .ok request.id
  format : element string .credentialQuery items 1 = .ok request.format
  constraint : element (nullable map) .credentialQuery items 2 = .ok request.constraint
  claims : element (nullable (list ClaimRequest.read)) .credentialQuery items 3 =
    .ok request.claims
  claimSets : element (nullable (list (list string))) .credentialQuery items 4 =
    .ok request.claimSets
  authorities : element (nullable (list TrustedAuthority.read)) .credentialQuery items 5 =
    .ok request.trustedAuthorities
  binding : element (nullable boolean) .credentialQuery items 6 = .ok request.holderBinding
  multiple : element (nullable boolean) .credentialQuery items 7 = .ok request.multiple
  length : Record.credentialQuery.checkLength items = .ok ()

theorem CredentialRequest.read_obj_eq_ok_iff {members : List (String × Json)}
    {request : CredentialRequest} :
    CredentialRequest.read (.obj members) = .ok request ↔ request.OfMembers members := by
  simp only [CredentialRequest.read, Except.bind_eq_ok_iff, present_eq_ok_iff]
  constructor
  · intro h
    obtain ⟨_, claimSets, _, claims, _, format, _, id, _, constraint, _, multiple, _, binding, _,
      authorities, _, rfl, _, rfl, h⟩ := h
    obtain rfl := Except.ok.inj h
    exact ⟨id, format, constraint, claims, claimSets, authorities, binding, multiple⟩
  · intro h
    exact ⟨_, h.claimSets, _, h.claims, _, h.format, _, h.id, _, h.constraint, _, h.multiple, _,
      h.binding, _, h.authorities, _, rfl, _, rfl, rfl⟩

theorem CredentialRequest.read_arr_eq_ok_iff {items : List Json} {request : CredentialRequest} :
    CredentialRequest.read (.arr items) = .ok request ↔ request.OfItems items := by
  simp only [CredentialRequest.read, Except.bind_eq_ok_iff]
  constructor
  · intro h
    obtain ⟨_, id, _, format, _, constraint, _, claims, _, claimSets, _, authorities, _, binding, _,
      multiple, _, length, h⟩ := h
    obtain rfl := Except.ok.inj h
    exact ⟨id, format, constraint, claims, claimSets, authorities, binding, multiple, length⟩
  · intro h
    exact ⟨_, h.id, _, h.format, _, h.constraint, _, h.claims, _, h.claimSets, _, h.authorities, _,
      h.binding, _, h.multiple, _, h.length, rfl⟩

theorem CredentialSetRequest.read_obj_eq_ok_iff {members : List (String × Json)}
    {request : CredentialSetRequest} :
    CredentialSetRequest.read (.obj members) = .ok request ↔
      member? any "purpose" members = .ok (some request.purpose) ∧
      optional boolean "required" members = .ok request.required ∧
      member? (list (list string)) "options" members = .ok (some request.options) := by
  simp only [CredentialSetRequest.read, Except.bind_eq_ok_iff, present_eq_ok_iff]
  constructor
  · intro h
    obtain ⟨_, options, _, purpose, _, required, _, rfl, _, rfl, h⟩ := h
    obtain rfl := Except.ok.inj h
    exact ⟨purpose, required, options⟩
  · intro ⟨purpose, required, options⟩
    exact ⟨_, options, _, purpose, _, required, _, rfl, _, rfl, rfl⟩

theorem Request.read_obj_eq_ok_iff {members : List (String × Json)} {request : Request} :
    Request.read (.obj members) = .ok request ↔
      optional (list CredentialRequest.read) "credentials" members = .ok request.credentials ∧
      optional (list CredentialSetRequest.read) "credential_sets" members = .ok request.sets := by
  simp only [Request.read, Except.bind_eq_ok_iff]
  constructor
  · intro h
    obtain ⟨_, sets, _, credentials, h⟩ := h
    obtain rfl := Except.ok.inj h
    exact ⟨credentials, sets⟩
  · intro ⟨credentials, sets⟩
    exact ⟨_, sets, _, credentials, rfl⟩

theorem Request.read_arr_eq_ok_iff {items : List Json} {request : Request} :
    Request.read (.arr items) = .ok request ↔
      element (nullable (list CredentialRequest.read)) .query items 0 = .ok request.credentials ∧
      element (nullable (list CredentialSetRequest.read)) .query items 1 = .ok request.sets ∧
      Record.query.checkLength items = .ok () := by
  simp only [Request.read, Except.bind_eq_ok_iff]
  constructor
  · intro h
    obtain ⟨_, credentials, _, sets, _, length, h⟩ := h
    obtain rfl := Except.ok.inj h
    exact ⟨credentials, sets, length⟩
  · intro ⟨credentials, sets, length⟩
    exact ⟨_, credentials, _, sets, _, length, rfl⟩

@[simp] theorem AuthorityType.name_ofName (name : String) : (ofName name).name = name := by
  simp only [ofName, known, Entries.lookup_cons]
  split
  · simp_all [AuthorityType.name]
  · split
    · simp_all [AuthorityType.name]
    · split
      · simp_all [AuthorityType.name]
      · rfl

/-- A type is read from its name, which may be the only member of an object. -/
theorem AuthorityType.exists_name_of_read {value : Json} {type : AuthorityType}
    (h : AuthorityType.read value = .ok type) :
    ∃ name, type = ofName name ∧ (value = .str name ∨ value = .obj [(name, .null)]) := by
  unfold AuthorityType.read at h
  split at h
  · next name => exact ⟨name, (Except.ok.inj h).symm, .inl rfl⟩
  · next name =>
    split at h
    · next found =>
      obtain rfl := Except.ok.inj h
      exact ⟨name, by rw [ofName, found, Option.getD_some], .inr rfl⟩
    · contradiction
  · contradiction

/-- No type that is read has the name of a known one without being it. -/
theorem AuthorityType.yields_read :
    Yields AuthorityType.read fun type => ofName type.name = type := by
  intro value type h
  obtain ⟨name, rfl, -⟩ := exists_name_of_read h
  rw [name_ofName]

theorem TrustedAuthority.yields_read : Yields TrustedAuthority.read fun authority =>
    AuthorityType.ofName authority.type.name = authority.type := by
  intro value authority h
  cases value with
  | obj members =>
    exact AuthorityType.yields_read.member? (read_obj_eq_ok_iff.1 h).1 authority.type rfl
  | arr items =>
    simp only [TrustedAuthority.read, Except.bind_eq_ok_iff] at h
    obtain ⟨type, read, _, _, _, _, h⟩ := h
    obtain rfl := Except.ok.inj h
    exact AuthorityType.yields_read.element read
  | _ => contradiction

/-- Every trusted authority that the request names has its type from a name. -/
def CredentialRequest.NamesTypes (request : CredentialRequest) : Prop :=
  ∀ authorities, request.trustedAuthorities = some authorities →
    ∀ authority ∈ authorities, AuthorityType.ofName authority.type.name = authority.type

theorem CredentialRequest.yields_read :
    Yields CredentialRequest.read CredentialRequest.NamesTypes := by
  intro value request h
  have list := TrustedAuthority.yields_read.list
  cases value with
  | obj members => exact list.optional (read_obj_eq_ok_iff.1 h).authorities
  | arr items => exact list.nullable.element (read_arr_eq_ok_iff.1 h).authorities
  | _ => contradiction

theorem Request.yields_read : Yields Request.read fun request =>
    ∀ credentials, request.credentials = some credentials →
      ∀ r ∈ credentials, r.NamesTypes := by
  intro value request h
  have list := CredentialRequest.yields_read.list
  cases value with
  | obj members => exact list.optional (read_obj_eq_ok_iff.1 h).1
  | arr items => exact list.nullable.element (read_arr_eq_ok_iff.1 h).1
  | _ => contradiction

end WalletQuery
