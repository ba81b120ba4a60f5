import WalletQuery.Proofs.Request.Built
import WalletQuery.Proofs.Request.Written

/-! Queries that are written and read back: exactly the portable ones come back, and every query
that is read is portable. -/
namespace WalletQuery

/-- The query is read from the JSON value that is written for it. -/
def Query.RoundTrips (query : Query) : Prop :=
  ∃ back, ofJson .strict query.toJson = .ok back ∧ (back == query) = true

theorem Constraint.ofMembers_members {query : String} {format : Format} {constraint : Constraint}
    (h : constraint.appliesTo format = true) :
    Constraint.ofMembers query format constraint.members = .ok constraint := by
  cases constraint <;> cases format <;> try contradiction
  · rfl
  · next values =>
    have found : (Constraint.vct values).members.get? "vct_values" = some (.ofStrings values) := rfl
    have listed : nonEmpty (.noVctValues query) values.toList = .ok values :=
      nonEmpty_eq_ok_iff.2 rfl
    simp [ofMembers, found, Json.strings?_ofStrings, listed, Functor.map, Except.map]
  · rfl

theorem CredentialQuery.asksFor_toRequest {query : CredentialQuery} (h : query.Portable) :
    query.toRequest.AsksFor .strict query where
  id := rfl
  format := Format.ofName_name.2 h.format
  constraint := ⟨_, rfl, Constraint.ofMembers_members query.applies⟩
  claims := by
    change List.Forall₂ _ (query.claims.toList.map Claim.toRequest) _
    rw [List.forall₂_map_left_iff, List.forall₂_same]
    intro claim mem
    rw [ClaimRequest.toClaim_eq_ok_iff]
    refine ⟨rfl, rfl, rfl, ?_⟩
    split
    · rfl
    · next other => exact (h.retain other claim mem).symm
  claimSets := getD_map_listed? NonEmptyList.toList query.claimSets
  authorities := rfl
  holderBinding := rfl
  multiple := rfl

theorem Query.toQuery_toRequest {query : Query} (h : query.Portable) :
    query.toRequest.toQuery .strict = .ok query := by
  rw [Request.toQuery_eq_ok_iff]
  constructor
  · change List.Forall₂ _ (query.credentials.toList.map CredentialQuery.toRequest) _
    rw [List.forall₂_map_left_iff, List.forall₂_same]
    intro q mem
    exact CredentialRequest.toCredentialQuery_eq_ok_iff.2 (q.asksFor_toRequest (h q mem))
  · have sets : query.toRequest.sets.getD [] = query.sets.map CredentialSet.toRequest :=
      getD_map_listed? CredentialSet.toRequest query.sets
    rw [sets, List.forall₂_map_left_iff, List.forall₂_same]
    intro set _
    exact CredentialSetRequest.toCredentialSet_eq_ok_iff.2 ⟨rfl, rfl, rfl⟩

theorem Query.ofJson_toJson {query : Query} (h : query.Portable) :
    ofJson .strict query.toJson = .ok query := by
  rw [ofJson, Except.bind_eq_ok_iff]
  refine ⟨query.toRequest, ?_, ?_⟩
  · rw [read_toJson h]
    rfl
  · rw [toQuery_toRequest h]
    rfl

theorem Format.ofName_name_read (tolerance : Tolerance) (name : String) :
    ofName (read tolerance name).name = read tolerance name := by
  unfold read ofNameLenient
  split
  · split
    · rfl
    · rw [name_ofName]
  · rw [name_ofName]

/-- Whatever the tolerance, what a request asks for is portable. -/
theorem CredentialRequest.AsksFor.portable {tolerance : Tolerance} {request : CredentialRequest}
    {query : CredentialQuery} (h : request.AsksFor tolerance query) (named : request.NamesTypes) :
    query.Portable where
  format := by
    rw [← h.format]
    exact Format.ofName_name.1 (Format.ofName_name_read tolerance request.format)
  retain := by
    intro other claim mem
    obtain ⟨_, -, built⟩ := exists_of_mem_right h.claims mem
    obtain ⟨-, -, -, retain⟩ := ClaimRequest.toClaim_eq_ok_iff.1 built
    rw [← retain, if_neg other]
  authorities := by
    intro authorities written authority mem
    have asked := h.authorities
    rw [written] at asked
    exact AuthorityType.ofName_name_iff.1 (named _ asked authority mem)

theorem Query.portable_of_ofJson {tolerance : Tolerance} {value : Json} {query : Query}
    (h : ofJson tolerance value = .ok query) : query.Portable := by
  unfold ofJson at h
  simp only [Except.bind_eq_ok_iff, Except.mapError_eq_ok_iff, Request.toQuery_eq_ok_iff] at h
  obtain ⟨request, read, built, -⟩ := h
  intro q mem
  obtain ⟨asking, listed, asks⟩ := exists_of_mem_right built mem
  cases credentials : request.credentials with
  | none => simp [credentials] at listed
  | some requests =>
    rw [credentials, Option.getD_some] at listed
    have named := Request.yields_read value request read requests credentials asking listed
    exact (CredentialRequest.toCredentialQuery_eq_ok_iff.1 asks).portable named

/-- Equal queries are portable alike. -/
theorem CredentialQuery.Portable.of_beq {a b : CredentialQuery} (ha : a.Portable)
    (h : (a == b) = true) : b.Portable := by
  obtain ⟨-, format, -, claims, -, authorities, -, -⟩ := CredentialQuery.beq_iff.1 h
  refine ⟨format ▸ ha.format, ?_, authorities ▸ ha.authorities⟩
  intro other claim mem
  obtain ⟨original, mem, same⟩ := exists_of_mem_right (beq_iff_forall₂.1 claims) mem
  obtain ⟨-, -, -, retain⟩ := Claim.beq_iff.1 same
  rw [← retain]
  exact ha.retain (format ▸ other) original mem

theorem Query.Portable.of_beq {a b : Query} (ha : a.Portable) (h : (a == b) = true) :
    b.Portable := by
  intro q mem
  obtain ⟨original, mem, same⟩ := exists_of_mem_right (beq_iff_forall₂.1 (Query.beq_iff.1 h).1) mem
  exact (ha original mem).of_beq same

/-- The portable queries are exactly those that come back, and all queries that are read are
portable. -/
theorem Query.roundTrips_iff_portable :
    (∀ query : Query, query.RoundTrips ↔ query.Portable) ∧
    ∀ (tolerance : Tolerance) (value : Json) (query : Query),
      ofJson tolerance value = .ok query → query.Portable ∧ query.RoundTrips := by
  have back {query : Query} (h : query.Portable) : query.RoundTrips :=
    ⟨query, ofJson_toJson h, BEq.rfl⟩
  refine ⟨fun query => ⟨?_, back⟩, fun tolerance value query h => ?_⟩
  -- what comes back was read, and so the query that equals it is portable as it is
  · intro ⟨read, h, same⟩
    exact (portable_of_ofJson h).of_beq same
  · have portable := portable_of_ofJson h
    exact ⟨portable, back portable⟩

/-- Asks for a credential of a format that is only known by its name. -/
def Query.ofFormat (name : String) : Query where
  credentials := .singleton
    { id := "card"
      format := .other name
      constraint := .other ∅
      claims := .singleton { path := ⟨.singleton (.key "country")⟩ }
      claimSets := []
      index := ∅
      applies := rfl
      indexed := rfl }
  sets := []
  distinct := List.nodup_cons.2 ⟨List.not_mem_nil, List.nodup_nil⟩

/-- A request that names the format as before it was renamed. -/
def Json.legacyRequest : Json :=
  .obj [("credentials", .arr [.obj
    [("claims", .arr [.obj [("path", .arr [.str "country"])]]),
     ("format", .str "vc+sd-jwt"),
     ("id", .str "card"),
     ("meta", .obj [("vct_values", .arr [.str "card"])])]])]

theorem roundTrips_by_format :
    (Query.ofFormat "ldp_vc").RoundTrips ∧ ¬(Query.ofFormat "mso_mdoc").RoundTrips ∧
      ∃ query, Query.ofJson ⟨true⟩ .legacyRequest = .ok query ∧ query.RoundTrips := by
  have legacy : ∃ query, Query.ofJson ⟨true⟩ .legacyRequest = .ok query := ⟨_, rfl⟩
  refine ⟨?_, ?_, ?_⟩
  · refine (Query.roundTrips_iff_portable.1 _).2 fun q mem => ?_
    obtain rfl := List.mem_singleton.1 mem
    refine ⟨by decide, fun _ claim mem => ?_, nofun⟩
    obtain rfl := List.mem_singleton.1 mem
    rfl
  · intro h
    have portable := (Query.roundTrips_iff_portable.1 _).1 h _ (List.mem_singleton_self _)
    exact portable.format.1 rfl
  · obtain ⟨query, read⟩ := legacy
    exact ⟨query, read, (Query.roundTrips_iff_portable.2 _ _ _ read).2⟩

end WalletQuery
