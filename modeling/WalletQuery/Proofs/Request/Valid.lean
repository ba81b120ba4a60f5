import WalletQuery.Proofs.ClaimIndex
import WalletQuery.Proofs.Request.Built
import WalletQuery.Proofs.Request.Rule
import WalletQuery.Query.ToJson

/-! The requests from which a query is built, and the rule that is reported of each of the others:
of all the rules that it breaks, the first in the order in which they are listed here. -/
namespace WalletQuery

/-- The members that the format asks for are there, of the kind that it asks for. -/
def Format.Admits (members : Dictionary Json) : Format → Prop
  | msoMdoc => ∃ type, members.get? "doctype_value" = some (.str type)
  | sdJwtVc => ∃ types, members.get? "vct_values" = some (.ofStrings types)
  | other _ => True

/-- What is reported of members that the format does not admit. -/
def Format.misfit (query : String) : Format → Violation
  | msoMdoc => .noDoctype query
  | _ => .noVctValues query

/-- Each of the names is a new one. -/
def freshRules (violation : String → Violation) (seen : List String) : List String → List Rule
  | [] => []
  | name :: names => ⟨name ∉ seen, violation name⟩ :: freshRules violation (name :: seen) names

def CredentialRequest.claimIds (request : CredentialRequest) : List String :=
  (request.claims.getD []).filterMap ClaimRequest.id

def CredentialRequest.rules (tolerance : Tolerance) (request : CredentialRequest) : List Rule :=
  let format := Format.read tolerance request.format
  [⟨request.constraint ≠ none, .noMeta request.id⟩,
   ⟨∀ members, request.constraint = some members → format.Admits members,
     format.misfit request.id⟩,
   ⟨request.claims.getD [] ≠ [], .noClaims request.id⟩] ++
  (request.claims.getD []).map (fun claim => ⟨claim.values ≠ some [], .emptyValues request.id⟩) ++
  (request.claimSets.getD []).map (fun set => ⟨set ≠ [], .emptyClaimSet request.id⟩) ++
  [⟨request.trustedAuthorities ≠ some [], .emptyTrustedAuthorities⟩] ++
  freshRules (.repeatedClaimId request.id) [] request.claimIds

def CredentialSetRequest.rules (request : CredentialSetRequest) : List Rule :=
  request.options.map (fun option => ⟨option ≠ [], .emptyOption⟩) ++
  [⟨request.options ≠ [], .noOptions⟩]

def Request.rules (tolerance : Tolerance) (request : Request) : List Rule :=
  [⟨request.credentials.getD [] ≠ [], .noCredentials⟩] ++
  (request.credentials.getD []).flatMap (CredentialRequest.rules tolerance) ++
  (request.sets.getD []).flatMap CredentialSetRequest.rules ++
  freshRules .repeatedQueryId [] ((request.credentials.getD []).map CredentialRequest.id)

structure CredentialRequest.Valid (tolerance : Tolerance) (request : CredentialRequest) :
    Prop where
  constraint : ∃ members, request.constraint = some members ∧
    (Format.read tolerance request.format).Admits members
  claims : ∃ claims, request.claims = some claims ∧ claims ≠ [] ∧
    ∀ claim ∈ claims, claim.values ≠ some []
  claimSets : ∀ sets, request.claimSets = some sets → ∀ set ∈ sets, set ≠ []
  authorities : request.trustedAuthorities ≠ some []
  distinct : request.claimIds.Nodup

structure Request.Valid (tolerance : Tolerance) (request : Request) : Prop where
  credentials : ∃ credentials, request.credentials = some credentials ∧ credentials ≠ [] ∧
    (∀ r ∈ credentials, r.Valid tolerance) ∧ (credentials.map CredentialRequest.id).Nodup
  sets : ∀ sets, request.sets = some sets →
    ∀ set ∈ sets, set.options ≠ [] ∧ ∀ option ∈ set.options, option ≠ []

theorem firstBroken_freshRules_iff {report : String → Violation} {seen names : List String}
    {violation : Violation} :
    FirstBroken (freshRules report seen names) violation ↔
      ∃ name, firstRepeatFrom seen names = some name ∧ report name = violation := by
  induction names generalizing seen with
  | nil => simp [freshRules, firstRepeatFrom, not_firstBroken_nil]
  | cons name names ih =>
    rw [freshRules, firstBroken_cons_iff, ih, firstRepeatFrom]
    by_cases h : name ∈ seen <;> simp [h]

theorem forall_freshRules_iff {report : String → Violation} {names : List String} :
    (∀ rule ∈ freshRules report [] names, rule.Holds) ↔ names.Nodup := by
  rw [← firstRepeat_eq_none_iff, firstRepeat, ← not_iff_not]
  push Not
  rw [← exists_firstBroken_iff]
  simp only [firstBroken_freshRules_iff, Option.ne_none_iff_exists']
  constructor
  · intro h
    obtain ⟨_, name, repeated, -⟩ := h
    exact ⟨name, repeated⟩
  · intro h
    obtain ⟨name, repeated⟩ := h
    exact ⟨_, name, repeated, rfl⟩

theorem CredentialRequest.forall_rules_iff {tolerance : Tolerance} {request : CredentialRequest} :
    (∀ rule ∈ request.rules tolerance, rule.Holds) ↔ request.Valid tolerance := by
  simp only [rules, List.forall_mem_append, List.forall_mem_cons, List.forall_mem_map,
    List.not_mem_nil, false_imp_iff, implies_true, and_true, forall_freshRules_iff]
  constructor
  · rintro ⟨⟨⟨⟨⟨hasMeta, admitted, claims⟩, values⟩, claimSets⟩, authorities⟩, distinct⟩
    obtain ⟨members, written⟩ := Option.ne_none_iff_exists'.1 hasMeta
    refine ⟨⟨members, written, admitted members written⟩, ?_, ?_, authorities, distinct⟩
    · cases present : request.claims with
      | none => simp [present] at claims
      | some requests =>
        rw [present] at claims values
        exact ⟨requests, rfl, claims, values⟩
    · intro sets written
      rw [written] at claimSets
      exact claimSets
  · intro h
    obtain ⟨⟨members, written, admitted⟩, ⟨requests, present, claims, values⟩, claimSets,
      authorities, distinct⟩ := h
    refine ⟨⟨⟨⟨⟨?_, ?_, ?_⟩, ?_⟩, ?_⟩, authorities⟩, distinct⟩
    · simp [written]
    · intro other same
      rw [written] at same
      exact Option.some.inj same ▸ admitted
    · rwa [present]
    · rwa [present]
    · cases written : request.claimSets with
      | none => simp
      | some sets => exact claimSets sets written

theorem CredentialSetRequest.forall_rules_iff {request : CredentialSetRequest} :
    (∀ rule ∈ request.rules, rule.Holds) ↔
      request.options ≠ [] ∧ ∀ option ∈ request.options, option ≠ [] := by
  simp only [rules, List.forall_mem_append, List.forall_mem_map, List.forall_mem_singleton]
  exact and_comm

theorem Request.forall_rules_iff {tolerance : Tolerance} {request : Request} :
    (∀ rule ∈ request.rules tolerance, rule.Holds) ↔ request.Valid tolerance := by
  simp only [rules, List.forall_mem_append, List.forall_mem_singleton, List.forall_mem_flatMap,
    CredentialRequest.forall_rules_iff, CredentialSetRequest.forall_rules_iff,
    forall_freshRules_iff]
  constructor
  · rintro ⟨⟨⟨present, valid⟩, sets⟩, distinct⟩
    constructor
    · cases written : request.credentials with
      | none => simp [written] at present
      | some requests =>
        rw [written] at present valid distinct
        exact ⟨requests, rfl, present, valid, distinct⟩
    · intro requests written
      rw [written] at sets
      exact sets
  · intro h
    obtain ⟨⟨requests, written, present, valid, distinct⟩, sets⟩ := h
    rw [written]
    refine ⟨⟨⟨present, valid⟩, ?_⟩, distinct⟩
    cases written : request.sets with
    | none => simp
    | some requests => exact sets requests written

theorem enforces_toClaim (query : String) (format : Format) (request : ClaimRequest) :
    Enforces (request.toClaim query format) [⟨request.values ≠ some [], .emptyValues query⟩] :=
  (enforces_mapM_nonEmpty_option (.emptyValues query) request.values).bind fun _ _ => .ok _

theorem Format.admits_sdJwtVc_iff {members : Dictionary Json} {texts : List String}
    (listed : (members.get? "vct_values").bind Json.strings? = some texts) :
    sdJwtVc.Admits members ↔ texts ≠ [] := by
  obtain ⟨value, written, listed⟩ := Option.bind_eq_some_iff.1 listed
  constructor
  · intro h
    obtain ⟨types, found⟩ := h
    rw [written, Option.some.injEq] at found
    rw [found, Json.strings?_ofStrings, Option.some.injEq] at listed
    exact listed ▸ types.toList_ne_nil
  · intro nonempty
    obtain ⟨text, rest, rfl⟩ := List.exists_cons_of_ne_nil nonempty
    refine ⟨⟨text, rest⟩, ?_⟩
    rw [written, Json.strings?_eq_some_iff.1 listed]
    rfl

theorem enforces_ofMembers (query : String) (format : Format) (members : Dictionary Json) :
    Enforces (Constraint.ofMembers query format members)
      [⟨format.Admits members, format.misfit query⟩] := by
  cases format with
  | msoMdoc =>
    simp only [Constraint.ofMembers]
    split
    · next type found => exact .met ⟨type, found⟩ _ _
    · next missing => exact .unmet (fun ⟨type, found⟩ => missing type found) _ []
  | sdJwtVc =>
    simp only [Constraint.ofMembers]
    split
    · next texts listed =>
      rw [propext (Format.admits_sdJwtVc_iff listed)]
      exact Enforces.map_iff.2 (enforces_nonEmpty (.noVctValues query) texts)
    · next missing =>
      refine .unmet (fun ⟨types, found⟩ => ?_) _ []
      simp [found, Json.strings?_ofStrings] at missing
  | other name => exact .met trivial _ _

theorem Constraint.appliesTo_of_ofMembers {query : String} {format : Format}
    {members : Dictionary Json} {constraint : Constraint}
    (h : ofMembers query format members = .ok constraint) :
    constraint.appliesTo format = true := by
  cases format with
  | msoMdoc =>
    simp only [ofMembers] at h
    split at h
    · obtain rfl := Except.ok.inj h
      rfl
    · contradiction
  | sdJwtVc =>
    simp only [ofMembers] at h
    split at h
    · obtain ⟨types, -, rfl⟩ := Except.map_eq_ok_iff.1 h
      rfl
    · contradiction
  | other name =>
    obtain rfl := Except.ok.inj h
    rfl

theorem enforces_credentialQuery_ofParts {id : String} {format : Format} {constraint : Constraint}
    (applies : constraint.appliesTo format = true) (claims : NonEmptyList Claim)
    (claimSets : List ClaimSet) :
    Enforces (CredentialQuery.ofParts id format constraint claims claimSets)
      (freshRules (.repeatedClaimId id) [] (claimIds claims.toList)) := by
  intro violation
  rw [firstBroken_freshRules_iff]
  have failed (claim : String) : ClaimIndex.ofClaims claims.toList = .error claim ↔
      firstRepeatFrom [] (claimIds claims.toList) = some claim := ClaimIndex.ofClaims_eq_error_iff
  unfold CredentialQuery.ofParts
  rw [dif_pos applies]
  simp only [← failed]
  split
  · next claim indexed => simp [indexed]
  · next index indexed => simp [indexed]

theorem enforces_query_ofParts (credentials : NonEmptyList CredentialQuery)
    (sets : List CredentialSet) :
    Enforces (Query.ofParts credentials sets)
      (freshRules .repeatedQueryId [] (credentials.toList.map CredentialQuery.id)) := by
  intro violation
  rw [firstBroken_freshRules_iff]
  unfold Query.ofParts
  split
  · next id repeated =>
    rw [firstRepeat] at repeated
    simp [repeated]
  · next distinct =>
    rw [firstRepeat] at distinct
    simp [distinct]

theorem enforces_toCredentialSet (request : CredentialSetRequest) :
    Enforces request.toCredentialSet request.rules := by
  refine (enforces_mapM_nonEmpty .emptyOption request.options).bind fun options listed => ?_
  have written : request.options = options.map NonEmptyList.toList :=
    mapM_nonEmpty_eq_ok_iff.1 listed
  have same : (request.options ≠ []) = (options ≠ []) := by
    rw [written, ne_eq, List.map_eq_nil_iff]
  rw [same]
  exact Enforces.map_iff.2 (enforces_nonEmpty .noOptions options)

/-- The ids of claims that are built are those of the request. -/
theorem claimIds_of_forall₂ {query : String} {format : Format} {requests : List ClaimRequest}
    {claims : List Claim}
    (built : List.Forall₂ (fun r claim => r.toClaim query format = .ok claim) requests claims) :
    claimIds claims = requests.filterMap ClaimRequest.id := by
  induction built with
  | nil => rfl
  | cons head _ ih =>
    obtain ⟨id, -⟩ := ClaimRequest.toClaim_eq_ok_iff.1 head
    unfold claimIds at ih ⊢
    rw [List.filterMap_cons, List.filterMap_cons, ih, id]

theorem enforces_toCredentialQuery (tolerance : Tolerance) (request : CredentialRequest) :
    Enforces (request.toCredentialQuery tolerance) (request.rules tolerance) := by
  unfold CredentialRequest.toCredentialQuery
  split
  · next members written =>
    have admits (format : Format) :
        (∀ members, request.constraint = some members → format.Admits members) =
          format.Admits members := by simp [written]
    simp only [CredentialRequest.rules, admits, List.append_assoc, List.cons_append,
      List.nil_append]
    refine .cons (by simp [written]) ?_
    refine (enforces_ofMembers _ _ members).bind fun constraint ofMembers => ?_
    have applies := Constraint.appliesTo_of_ofMembers ofMembers
    refine (enforces_nonEmpty _ _).bind fun requests listed => ?_
    have listed : request.claims.getD [] = requests.toList := nonEmpty_eq_ok_iff.1 listed
    rw [listed, List.map_eq_flatMap]
    refine (Enforces.mapM_nonEmptyList fun claim _ => enforces_toClaim _ _ claim).bind
      fun claims built => ?_
    have ids : request.claimIds = claimIds claims.toList := by
      rw [claimIds_of_forall₂ (NonEmptyList.mapM_eq_ok_iff.1 built), CredentialRequest.claimIds,
        listed]
    refine (enforces_mapM_nonEmpty _ _).bind fun claimSets _ => ?_
    refine (enforces_mapM_nonEmpty_option _ _).bind fun authorities _ => ?_
    rw [ids]
    exact Enforces.map_iff.2 (enforces_credentialQuery_ofParts applies claims claimSets)
  · next missing =>
    have absent : ¬request.constraint ≠ none := by
      simpa [Option.eq_none_iff_forall_ne_some] using missing
    exact .unmet absent _ _

theorem ids_of_forall₂ {tolerance : Tolerance} {requests : List CredentialRequest}
    {queries : List CredentialQuery}
    (built : List.Forall₂ (fun r q => r.toCredentialQuery tolerance = .ok q) requests queries) :
    queries.map CredentialQuery.id = requests.map CredentialRequest.id :=
  (map_eq_map_of_forall₂ built fun _ _ h =>
    (CredentialRequest.toCredentialQuery_eq_ok_iff.1 h).id).symm

theorem enforces_toQuery (tolerance : Tolerance) (request : Request) :
    Enforces (request.toQuery tolerance) (request.rules tolerance) := by
  simp only [Request.rules, List.append_assoc]
  refine (enforces_nonEmpty _ _).bind fun requests listed => ?_
  have listed : request.credentials.getD [] = requests.toList := nonEmpty_eq_ok_iff.1 listed
  rw [listed]
  refine (Enforces.mapM_nonEmptyList fun r _ => enforces_toCredentialQuery tolerance r).bind
    fun queries built => ?_
  refine (Enforces.mapM fun set _ => enforces_toCredentialSet set).bind fun sets _ => ?_
  rw [← ids_of_forall₂ (NonEmptyList.mapM_eq_ok_iff.1 built)]
  exact enforces_query_ofParts queries sets

/-- A query is built from the valid requests, and of any other request the first broken rule is
reported. -/
theorem Request.toQuery_valid_or_firstBroken (tolerance : Tolerance) (request : Request) :
    ((∃ query, request.toQuery tolerance = .ok query) ↔ request.Valid tolerance) ∧
    ∀ violation, request.toQuery tolerance = .error violation ↔
      FirstBroken (request.rules tolerance) violation := by
  have checks := enforces_toQuery tolerance request
  exact ⟨checks.exists_ok_iff.trans forall_rules_iff, checks⟩

/-- The second credential query has no constraint, and the first has an empty claim set besides a
claim that accepts no value: the claim is reported. -/
example :
    let card : CredentialRequest :=
      { id := "card"
        format := "ldp_vc"
        constraint := some ∅
        claims := some [⟨none, ⟨.singleton (.key "country")⟩, some [], none⟩]
        claimSets := some [[]]
        trustedAuthorities := none
        holderBinding := none
        multiple := none }
    Request.toQuery .strict ⟨some [card, { card with constraint := none }], none⟩ =
      .error (.emptyValues "card") := rfl

end WalletQuery
