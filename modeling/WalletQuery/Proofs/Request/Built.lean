import WalletQuery.Proofs.Traversal
import WalletQuery.Query.ToJson
import WalletQuery.Request.Build

/-! Which query is built from a request, if one is: each part is that of the request, and nothing
else is added or left out. -/
namespace WalletQuery
variable {ε α β : Type}

theorem NonEmptyList.mapM_eq_ok_iff {f : α → Except ε β} {xs : NonEmptyList α}
    {ys : NonEmptyList β} :
    xs.mapM f = .ok ys ↔ List.Forall₂ (fun x y => f x = .ok y) xs.toList ys.toList := by
  rw [← WalletQuery.mapM_eq_ok_iff, ← toList_mapM, Except.map_eq_ok_iff]
  constructor
  · intro h
    exact ⟨ys, h, rfl⟩
  · intro ⟨zs, h, same⟩
    rw [h, toList_injective same]

theorem NonEmptyList.exists_of_forall₂ {r : α → β → Prop} {xs : List α} {ys : NonEmptyList β}
    (h : List.Forall₂ r xs ys.toList) : ∃ zs : NonEmptyList α, xs = zs.toList := by
  cases h with
  | cons => exact ⟨⟨_, _⟩, rfl⟩

theorem nonEmpty_eq_ok_iff {violation : Violation} {items : List α} {xs : NonEmptyList α} :
    nonEmpty violation items = .ok xs ↔ items = xs.toList := by
  rw [← NonEmptyList.ofList?_eq_some_iff]
  unfold nonEmpty
  cases NonEmptyList.ofList? items <;> simp

theorem mapM_nonEmpty_eq_ok_iff {violation : Violation} {lists : List (List α)}
    {xss : List (NonEmptyList α)} :
    lists.mapM (nonEmpty violation) = .ok xss ↔ lists = xss.map NonEmptyList.toList := by
  simp only [mapM_eq_ok_iff, nonEmpty_eq_ok_iff]
  rw [← List.forall₂_map_right_iff, List.forall₂_eq_eq_eq]

theorem mapM_nonEmpty_option_eq_ok_iff {violation : Violation} {items : Option (List α)}
    {xs : Option (NonEmptyList α)} :
    items.mapM (nonEmpty violation) = .ok xs ↔ items = xs.map NonEmptyList.toList := by
  cases items with
  | none => cases xs <;> simp [pure, Except.pure]
  | some items =>
    simp only [Option.mapM_some, Except.map_eq_ok_iff, nonEmpty_eq_ok_iff]
    cases xs with
    | none => simp
    | some xs => simp

theorem Json.string?_eq_some_iff {value : Json} {text : String} :
    value.string? = some text ↔ value = .str text := by
  cases value <;> simp [string?]

theorem Json.strings?_eq_some_iff {value : Json} {texts : List String} :
    value.strings? = some texts ↔ value = .ofList .str texts := by
  cases value with
  | arr items =>
    simp only [strings?, mapM_eq_some_iff, string?_eq_some_iff, ofList, Json.arr.injEq]
    rw [← List.forall₂_map_right_iff, List.forall₂_eq_eq_eq]
  | _ => simp [strings?, ofList]

theorem Json.strings?_ofStrings (items : NonEmptyList String) :
    (Json.ofStrings items).strings? = some items.toList :=
  strings?_eq_some_iff.2 rfl

/-- Only for mdocs is the intent to retain kept. -/
theorem ClaimRequest.toClaim_eq_ok_iff {query : String} {format : Format} {request : ClaimRequest}
    {claim : Claim} :
    request.toClaim query format = .ok claim ↔
      request.id = claim.id ∧ request.path = claim.path ∧
        request.values = claim.values.map NonEmptyList.toList ∧
        (if format = .msoMdoc then request.intentToRetain else none) = claim.intentToRetain := by
  simp only [toClaim, Except.bind_eq_ok_iff, mapM_nonEmpty_option_eq_ok_iff]
  constructor
  · intro h
    obtain ⟨values, written, h⟩ := h
    obtain rfl := Except.ok.inj h
    exact ⟨rfl, rfl, written, rfl⟩
  · intro ⟨id, path, written, retain⟩
    exact ⟨claim.values, written, by rw [id, path, retain]; rfl⟩

theorem CredentialSetRequest.toCredentialSet_eq_ok_iff {request : CredentialSetRequest}
    {set : CredentialSet} :
    request.toCredentialSet = .ok set ↔
      request.purpose = set.purpose ∧ request.required.getD true = set.required ∧
        request.options = set.options.toList.map NonEmptyList.toList := by
  simp only [toCredentialSet, Except.bind_eq_ok_iff, mapM_nonEmpty_eq_ok_iff, nonEmpty_eq_ok_iff]
  constructor
  · intro h
    obtain ⟨lists, written, options, rfl, h⟩ := h
    obtain rfl := Except.ok.inj h
    exact ⟨rfl, rfl, written⟩
  · intro ⟨purpose, required, written⟩
    exact ⟨_, written, set.options, rfl, by rw [purpose, required]; rfl⟩

theorem CredentialQuery.ofParts_eq_ok_iff {id : String} {format : Format} {constraint : Constraint}
    {claims : NonEmptyList Claim} {claimSets : List ClaimSet} {query : CredentialQuery} :
    ofParts id format constraint claims claimSets = .ok query ↔
      id = query.id ∧ format = query.format ∧ constraint = query.constraint ∧
        claims = query.claims ∧ claimSets = query.claimSets ∧ query.trustedAuthorities = none ∧
        query.holderBinding = none ∧ query.multiple = none := by
  constructor
  · intro h
    unfold ofParts at h
    split at h
    · split at h
      · contradiction
      · obtain rfl := Except.ok.inj h
        exact ⟨rfl, rfl, rfl, rfl, rfl, rfl, rfl, rfl⟩
    · contradiction
  · obtain ⟨id, format, constraint, claims, claimSets, index, _, _, _, applies, indexed⟩ := query
    intro h
    obtain ⟨rfl, rfl, rfl, rfl, rfl, rfl, rfl, rfl⟩ := h
    unfold ofParts
    rw [dif_pos applies]
    split
    · next claim failed =>
      rw [indexed] at failed
      contradiction
    · next other made =>
      obtain rfl := Except.ok.inj (made.symm.trans indexed)
      rfl

theorem Query.ofParts_eq_ok_iff {credentials : NonEmptyList CredentialQuery}
    {sets : List CredentialSet} {query : Query} :
    ofParts credentials sets = .ok query ↔ credentials = query.credentials ∧ sets = query.sets := by
  constructor
  · intro h
    unfold ofParts at h
    split at h
    · contradiction
    · obtain rfl := Except.ok.inj h
      exact ⟨rfl, rfl⟩
  · intro h
    obtain ⟨rfl, rfl⟩ := h
    unfold ofParts
    split
    · next id repeated =>
      rw [firstRepeat_eq_none_iff.2 query.distinct] at repeated
      contradiction
    · rfl

/-- The request asks for what the credential query does. -/
structure CredentialRequest.AsksFor (tolerance : Tolerance) (request : CredentialRequest)
    (query : CredentialQuery) : Prop where
  id : request.id = query.id
  format : Format.read tolerance request.format = query.format
  constraint : ∃ members, request.constraint = some members ∧
    Constraint.ofMembers query.id query.format members = .ok query.constraint
  claims : List.Forall₂ (fun c claim => c.toClaim query.id query.format = .ok claim)
    (request.claims.getD []) query.claims.toList
  claimSets : request.claimSets.getD [] = query.claimSets.map NonEmptyList.toList
  authorities : request.trustedAuthorities = query.trustedAuthorities.map NonEmptyList.toList
  holderBinding : request.holderBinding = query.holderBinding
  multiple : request.multiple = query.multiple

theorem CredentialRequest.toCredentialQuery_eq_ok_iff {tolerance : Tolerance}
    {request : CredentialRequest} {query : CredentialQuery} :
    request.toCredentialQuery tolerance = .ok query ↔ request.AsksFor tolerance query := by
  constructor
  · intro h
    unfold toCredentialQuery at h
    split at h
    · next members written =>
      simp only [Except.bind_eq_ok_iff, nonEmpty_eq_ok_iff, NonEmptyList.mapM_eq_ok_iff,
        mapM_nonEmpty_eq_ok_iff, mapM_nonEmpty_option_eq_ok_iff,
        CredentialQuery.ofParts_eq_ok_iff] at h
      obtain ⟨constraint, ofMembers, requests, listed, claims, built, claimSets, sets, authorities,
        trusted, plain, ⟨id, format, rfl, rfl, rfl, -, -, -⟩, h⟩ := h
      obtain rfl := Except.ok.inj h
      rw [id, format] at ofMembers
      rw [id, format, ← listed] at built
      exact ⟨id, format, ⟨members, written, ofMembers⟩, built, sets, trusted, rfl, rfl⟩
    · contradiction
  · intro h
    obtain ⟨members, written, ofMembers⟩ := h.constraint
    obtain ⟨requests, listed⟩ := NonEmptyList.exists_of_forall₂ h.claims
    have claims := h.claims
    rw [listed] at claims
    have plain : CredentialQuery.ofParts query.id query.format query.constraint query.claims
        query.claimSets = .ok { query with
          trustedAuthorities := none, holderBinding := none, multiple := none } :=
      CredentialQuery.ofParts_eq_ok_iff.2 ⟨rfl, rfl, rfl, rfl, rfl, rfl, rfl, rfl⟩
    unfold toCredentialQuery
    simp only [written, h.id, h.format, Except.bind_eq_ok_iff, nonEmpty_eq_ok_iff,
      NonEmptyList.mapM_eq_ok_iff, mapM_nonEmpty_eq_ok_iff, mapM_nonEmpty_option_eq_ok_iff]
    refine ⟨_, ofMembers, requests, listed, _, claims, _, h.claimSets, _, h.authorities, _, plain,
      ?_⟩
    rw [h.holderBinding, h.multiple]
    rfl

theorem Request.toQuery_eq_ok_iff {tolerance : Tolerance} {request : Request} {query : Query} :
    request.toQuery tolerance = .ok query ↔
      List.Forall₂ (fun r q => r.toCredentialQuery tolerance = .ok q)
        (request.credentials.getD []) query.credentials.toList ∧
      List.Forall₂ (fun r set => r.toCredentialSet = .ok set)
        (request.sets.getD []) query.sets := by
  simp only [toQuery, Except.bind_eq_ok_iff, nonEmpty_eq_ok_iff, NonEmptyList.mapM_eq_ok_iff,
    mapM_eq_ok_iff, Query.ofParts_eq_ok_iff]
  constructor
  · intro h
    obtain ⟨requests, listed, credentials, queries, sets, built, rfl, rfl⟩ := h
    exact ⟨listed ▸ queries, built⟩
  · intro ⟨queries, built⟩
    obtain ⟨requests, listed⟩ := NonEmptyList.exists_of_forall₂ queries
    rw [listed] at queries
    exact ⟨requests, listed, _, queries, _, built, rfl, rfl⟩

end WalletQuery
