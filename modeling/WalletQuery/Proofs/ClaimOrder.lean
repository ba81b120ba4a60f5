import WalletQuery.Proofs.ClaimChoice

/-! How the list of claims bears on a match. Without claim sets it is read as a claim set of all
claims; with claim sets it serves to look up ids, so that neither the order of the claims matters
nor those of them that no claim set mentions. -/
namespace WalletQuery

namespace CredentialQuery

/-- A claim set lists the id. -/
def Mentions (query : CredentialQuery) (id : String) : Prop :=
  ∃ set ∈ query.claimSets, id ∈ set.toList

instance (query : CredentialQuery) (id : String) : Decidable (query.Mentions id) :=
  inferInstanceAs (Decidable (∃ set ∈ query.claimSets, id ∈ set.toList))

/-- The claims are the same, in any order, but for some without an id or with an id that no claim
set mentions. -/
def RearrangedTo (query other : CredentialQuery) : Prop :=
  ∃ kept removed added, query.claims.toList.Perm (kept ++ removed) ∧
    other.claims.toList.Perm (kept ++ added) ∧
    ∀ claim ∈ removed ++ added, ∀ id ∈ claim.id, ¬query.Mentions id

/-- The claims all have ids, and these are the ids in their order. -/
def Lists (query : CredentialQuery) (ids : ClaimSet) : Prop :=
  query.claims.toList.map Claim.id = ids.toList.map some

variable {query other : CredentialQuery} {credential : Credential} {id : String} {claim : Claim}

theorem mem_kept_iff {claims kept others : List Claim} (perm : claims.Perm (kept ++ others))
    (unmentioned : claim ∉ others) : claim ∈ claims ↔ claim ∈ kept := by
  rw [perm.mem_iff, List.mem_append]
  exact or_iff_left unmentioned

/-- An id that a claim set mentions leads to the same claim. -/
theorem RearrangedTo.claim?_eq (h : query.RearrangedTo other) (mentioned : query.Mentions id) :
    other.claim? id = query.claim? id := by
  obtain ⟨kept, removed, added, before, after, unmentioned⟩ := h
  apply Option.ext
  intro claim
  rw [claim?_eq_some_iff, claim?_eq_some_iff]
  apply and_congr_left
  intro named
  have kept : claim ∉ removed ++ added := fun mem => unmentioned claim mem id named mentioned
  rw [List.mem_append, not_or] at kept
  rw [mem_kept_iff before kept.1, mem_kept_iff after kept.2]

theorem RearrangedTo.discloseSet?_eq (h : query.RearrangedTo other) {set : ClaimSet}
    (declared : set ∈ query.claimSets) :
    credential.discloseSet? other set.toList = credential.discloseSet? query set.toList := by
  unfold Credential.discloseSet?
  apply mapM_congr
  intro id listed
  rw [h.claim?_eq ⟨set, declared, listed⟩]

theorem RearrangedTo.match?_eq (h : query.RearrangedTo other) (declared : query.claimSets ≠ [])
    (sets : other.claimSets = query.claimSets) :
    other.match? credential = query.match? credential := by
  rw [match?, match?, sets, if_neg (by simpa using declared), if_neg (by simpa using declared)]
  apply findSome?_congr
  intro set mem
  exact h.discloseSet?_eq mem

/-- Looking up the ids of all claims, in order, comes to going through the claims. -/
theorem discloseSet?_of_lists {ids : ClaimSet} (lists : query.Lists ids) :
    credential.discloseSet? query ids.toList = credential.discloseAll? query.claims.toList := by
  have found : List.Forall₂ (fun id claim => claim.id = some id ∧ claim ∈ query.claims.toList)
      ids.toList query.claims.toList := forall₂_view_iff.2 ⟨lists, fun claim mem => mem⟩
  unfold Credential.discloseSet? Credential.discloseAll?
  apply mapM_eq_mapM_of_forall₂
  apply found.imp
  intro id claim h
  rw [claim?_eq_some_iff.2 ⟨h.2, h.1⟩, Option.bind_some]

theorem match?_withClaimSet {ids : ClaimSet} (none : query.claimSets = [])
    (lists : query.Lists ids) :
    { query with claimSets := [ids] }.match? credential = query.match? credential := by
  have whole : { query with claimSets := [ids] }.match? credential =
      credential.discloseSet? query ids.toList := by
    rw [match?, if_neg (by simp), List.findSome?_singleton]
    rfl
  rw [whole, discloseSet?_of_lists lists, match?, if_pos (by simp [none])]

end CredentialQuery

/-- Without claim sets a query is matched as with the one claim set that lists all claims in order.
With claim sets neither the order of the claims matters nor those that no claim set mentions. -/
theorem match?_of_claims (query : CredentialQuery) (credential : Credential) :
    (∀ ids : ClaimSet, query.claimSets = [] → query.Lists ids →
      { query with claimSets := [ids] }.match? credential = query.match? credential) ∧
    ∀ other : CredentialQuery, query.claimSets ≠ [] → other.claimSets = query.claimSets →
      query.RearrangedTo other → other.match? credential = query.match? credential := by
  constructor
  · intro ids none lists
    exact CredentialQuery.match?_withClaimSet none lists
  · intro other declared sets rearranged
    exact rearranged.match?_eq declared sets

def CredentialQuery.ageAndName (claimSets : List ClaimSet) : CredentialQuery :=
  { CredentialQuery.licence claimSets with
    claims := ⟨.age, [.ofElement "name"]⟩
    index := .ofList [("age", 0), ("name", 1)]
    indexed := rfl }

/-- The second query has the claims in another order, and lacks the two that the set does not
mention. -/
theorem match?_ageAndName :
    let set : ClaimSet := ⟨"name", ["age"]⟩
    let query := CredentialQuery.licence [set]
    let other := CredentialQuery.ageAndName [set]
    let whole : ClaimSet := ⟨"age", ["name"]⟩
    let name := (Claim.ofElement "name", ClaimValue.mdoc (.text "David"))
    let age := (Claim.age, ClaimValue.mdoc .age)
    query.RearrangedTo other ∧ other.match? .licence = some [name, age] ∧
      query.match? .licence = some [name, age] ∧ (CredentialQuery.ageAndName []).Lists whole ∧
      (CredentialQuery.ageAndName []).match? .licence = some [age, name] ∧
      (CredentialQuery.ageAndName [whole]).match? .licence = some [age, name] := by
  intro set query other whole name age
  have unmentioned : ∀ claim ∈ [{ Claim.ofElement "portrait" with id := none },
      .ofElement "adult"] ++ [], ∀ id ∈ claim.id, ¬query.Mentions id := by decide
  have rearranged : query.RearrangedTo other :=
    ⟨[.ofElement "name", .age], _, [], .cons _ (.swap ..), .swap .., unmentioned⟩
  have declared : query.claimSets ≠ [] := List.cons_ne_nil set []
  have matched : query.match? .licence = some [name, age] := rfl
  have lists : (CredentialQuery.ageAndName []).Lists whole := rfl
  have all : (CredentialQuery.ageAndName []).match? .licence = some [age, name] := rfl
  exact ⟨rearranged,
    ((match?_of_claims query .licence).2 other declared rfl rearranged).trans matched, matched,
    lists, all, ((match?_of_claims (.ageAndName []) .licence).1 whole rfl lists).trans all⟩

end WalletQuery
