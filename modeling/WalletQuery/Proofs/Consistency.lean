import WalletQuery.Proofs.ClaimIndex
import WalletQuery.Proofs.Request.Built

/-! However a query is made, its parts fit together, and a look-up by id finds the one that is
meant. Parts that do not fit are refused. -/
namespace WalletQuery

namespace CredentialQuery

/-- The index and the claims never disagree. -/
structure Consistent (query : CredentialQuery) : Prop where
  applies : query.constraint.appliesTo query.format = true
  distinct : (claimIds query.claims.toList).Nodup
  indexed : ∀ id position, query.index.get? id = some position ↔
    ∃ claim, query.claims.toList[position]? = some claim ∧ claim.id = some id
  inRange : ∀ id position, query.index.get? id = some position → position < query.claims.length
  found : ∀ id claim, query.claim? id = some claim ↔
    claim ∈ query.claims.toList ∧ claim.id = some id
  missing : ∀ id, query.claim? id = none ↔ ∀ claim ∈ query.claims.toList, claim.id ≠ some id

theorem consistent (query : CredentialQuery) : query.Consistent where
  applies := query.applies
  distinct := query.distinct
  indexed _ _ := ClaimIndex.get?_eq_some_iff query.indexed
  inRange _ _ := query.position_lt
  found _ _ := query.claim?_eq_some_iff
  missing _ := query.claim?_eq_none_iff

/-- Reading a request, too, makes a query from its parts and then changes settings. -/
theorem exists_settings (query : CredentialQuery) :
    ∃ (plain : CredentialQuery) (settings : List Setting),
      ofParts query.id query.format query.constraint query.claims query.claimSets = .ok plain ∧
        settings.foldl set plain = query :=
  ⟨{ query with trustedAuthorities := none, holderBinding := none, multiple := none },
    [.trustedAuthorities query.trustedAuthorities, .holderBinding query.holderBinding,
      .multiple query.multiple],
    ofParts_eq_ok_iff.2 ⟨rfl, rfl, rfl, rfl, rfl, rfl, rfl, rfl⟩, rfl⟩

theorem exists_ofParts_iff {id : String} {format : Format} {constraint : Constraint}
    {claims : NonEmptyList Claim} {claimSets : List ClaimSet} :
    (∃ query, ofParts id format constraint claims claimSets = .ok query) ↔
      constraint.appliesTo format = true ∧ (claimIds claims.toList).Nodup := by
  constructor
  · intro ⟨query, made⟩
    obtain ⟨-, rfl, rfl, rfl, -⟩ := ofParts_eq_ok_iff.1 made
    exact ⟨query.applies, query.distinct⟩
  · intro ⟨applies, distinct⟩
    obtain ⟨index, indexed⟩ := ClaimIndex.exists_ofClaims_iff.2 distinct
    exact ⟨{ id, format, constraint, claims, claimSets, index, applies, indexed },
      ofParts_eq_ok_iff.2 ⟨rfl, rfl, rfl, rfl, rfl, rfl, rfl, rfl⟩⟩

end CredentialQuery

namespace Query

theorem exists_ofParts_iff {credentials : NonEmptyList CredentialQuery}
    {sets : List CredentialSet} :
    (∃ query, ofParts credentials sets = .ok query) ↔
      (credentials.toList.map CredentialQuery.id).Nodup := by
  constructor
  · intro ⟨query, made⟩
    obtain ⟨rfl, rfl⟩ := ofParts_eq_ok_iff.1 made
    exact query.distinct
  · intro distinct
    exact ⟨⟨credentials, sets, distinct⟩, ofParts_eq_ok_iff.2 ⟨rfl, rfl⟩⟩

theorem credentialQuery?_eq_some_iff {query : Query} {id : String} {q : CredentialQuery} :
    query.credentialQuery? id = some q ↔ q ∈ query.credentials.toList ∧ q.id = id :=
  find?_key_eq_some_iff query.distinct

theorem credentialQuery?_eq_none_iff {query : Query} {id : String} :
    query.credentialQuery? id = none ↔ ∀ q ∈ query.credentials.toList, q.id ≠ id := by
  simp [credentialQuery?]

end Query

/-- Every credential query comes of parts that fit and of settings, and is consistent. Parts make
one exactly if they fit. Credential queries make a query exactly if no id repeats, and each is found
by its id. -/
theorem queries_consistent :
    (∀ query : CredentialQuery, query.Consistent ∧
      ∃ (plain : CredentialQuery) (settings : List CredentialQuery.Setting),
      CredentialQuery.ofParts query.id query.format query.constraint query.claims query.claimSets =
          .ok plain ∧
        settings.foldl CredentialQuery.set plain = query) ∧
    (∀ id format constraint claims claimSets,
      (∃ query, CredentialQuery.ofParts id format constraint claims claimSets = .ok query) ↔
        constraint.appliesTo format = true ∧ (claimIds claims.toList).Nodup) ∧
    (∀ credentials sets, (∃ query, Query.ofParts credentials sets = .ok query) ↔
      (credentials.toList.map CredentialQuery.id).Nodup) ∧
    ∀ (query : Query) (id : String),
      (∀ q, query.credentialQuery? id = some q ↔ q ∈ query.credentials.toList ∧ q.id = id) ∧
      (query.credentialQuery? id = none ↔ ∀ q ∈ query.credentials.toList, q.id ≠ id) :=
  ⟨fun query => ⟨query.consistent, query.exists_settings⟩,
    fun _ _ _ _ _ => CredentialQuery.exists_ofParts_iff, fun _ _ => Query.exists_ofParts_iff,
    fun _ _ => ⟨fun _ => Query.credentialQuery?_eq_some_iff, Query.credentialQuery?_eq_none_iff⟩⟩

end WalletQuery
