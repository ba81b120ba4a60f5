import WalletQuery.Matching
import WalletQuery.Proofs.ClaimIndex

/-! What a match says of the disclosed claims. -/
namespace WalletQuery

/-- The value is that of the claim in the credential, and it is accepted. -/
def Credential.Discloses (credential : Credential) (disclosure : Disclosure) : Prop :=
  credential.resolve disclosure.1.path = .ok disclosure.2 ∧
    disclosure.2.isAccepted disclosure.1.values = true

namespace Credential
variable {credential : Credential}

theorem disclose?_eq_some_iff {claim : Claim} {disclosure : Disclosure} :
    credential.disclose? claim = some disclosure ↔
      disclosure.1 = claim ∧ credential.Discloses disclosure := by
  obtain ⟨claim', value⟩ := disclosure
  unfold disclose? Discloses
  constructor
  · intro h
    split at h
    · next found resolved =>
      obtain ⟨accepted, h⟩ := Option.ite_none_right_eq_some.1 h
      cases h
      exact ⟨rfl, resolved, accepted⟩
    · contradiction
  · intro h
    obtain ⟨rfl, resolved, accepted⟩ := h
    simp only at resolved accepted
    simp [resolved, accepted]

theorem discloseAll?_eq_some_iff {claims : List Claim} {disclosures : List Disclosure} :
    credential.discloseAll? claims = some disclosures ↔
      disclosures.map Prod.fst = claims ∧ ∀ d ∈ disclosures, credential.Discloses d := by
  unfold discloseAll?
  simp only [mapM_eq_some_iff, disclose?_eq_some_iff]
  rw [forall₂_view_iff (f := fun claim => claim), List.map_id']

/-- An id leads to the disclosure of the one claim that has it. -/
theorem disclose?_claim?_eq_some_iff {query : CredentialQuery} {id : String}
    {disclosure : Disclosure} :
    (query.claim? id).bind credential.disclose? = some disclosure ↔
      disclosure.1.id = some id ∧ disclosure.1 ∈ query.claims.toList ∧
        credential.Discloses disclosure := by
  simp only [Option.bind_eq_some_iff, CredentialQuery.claim?_eq_some_iff, disclose?_eq_some_iff]
  constructor
  · intro ⟨claim, ⟨mem, hid⟩, same, holds⟩
    subst same
    exact ⟨hid, mem, holds⟩
  · intro ⟨hid, mem, holds⟩
    exact ⟨disclosure.1, ⟨mem, hid⟩, rfl, holds⟩

theorem discloseSet?_eq_some_iff {query : CredentialQuery} {ids : List String}
    {disclosures : List Disclosure} :
    credential.discloseSet? query ids = some disclosures ↔
      disclosures.map (·.1.id) = ids.map some ∧
        ∀ d ∈ disclosures, d.1 ∈ query.claims.toList ∧ credential.Discloses d := by
  unfold discloseSet?
  simp only [mapM_eq_some_iff, disclose?_claim?_eq_some_iff]
  exact forall₂_view_iff

end Credential

namespace CredentialQuery
variable {query : CredentialQuery} {credential : Credential} {disclosures : List Disclosure}

theorem match?_eq_some_iff_all (h : query.claimSets = []) :
    query.match? credential = some disclosures ↔
      disclosures.map Prod.fst = query.claims.toList ∧
        ∀ d ∈ disclosures, credential.Discloses d := by
  rw [match?, if_pos (by simp [h]), Credential.discloseAll?_eq_some_iff]

/-- With claim sets, the first one that can be disclosed is. -/
theorem match?_eq_some_iff_first (h : query.claimSets ≠ []) :
    query.match? credential = some disclosures ↔
      ∃ set, IsFirst (fun set => (credential.discloseSet? query set.toList).isSome = true)
          query.claimSets set ∧
        credential.discloseSet? query set.toList = some disclosures := by
  rw [match?, if_neg (by simpa using h), findSome?_eq_some_iff_isFirst]

/-- Whatever the claim sets, a match discloses declared claims only. -/
theorem mem_claims_of_match? (h : query.match? credential = some disclosures) {d : Disclosure}
    (hd : d ∈ disclosures) : d.1 ∈ query.claims.toList ∧ credential.Discloses d := by
  by_cases hs : query.claimSets = []
  · obtain ⟨claims, holds⟩ := (match?_eq_some_iff_all hs).1 h
    exact ⟨claims ▸ List.mem_map_of_mem hd, holds d hd⟩
  · obtain ⟨set, -, h⟩ := (match?_eq_some_iff_first hs).1 h
    exact (Credential.discloseSet?_eq_some_iff.1 h).2 d hd

/-- If credentials disclose the same for each declared claim, up to a change of the disclosures,
then so do their matches. -/
theorem match?_map_of_disclose? {old new : Credential} {f : Disclosure → Disclosure}
    (same : ∀ claim ∈ query.claims.toList, new.disclose? claim = f <$> old.disclose? claim) :
    query.match? new = List.map f <$> query.match? old := by
  have discloseAll : new.discloseAll? query.claims.toList =
      List.map f <$> old.discloseAll? query.claims.toList := by
    unfold Credential.discloseAll?
    rw [mapM_congr same, mapM_map_eq]
  have discloseSet (ids : List String) :
      new.discloseSet? query ids = List.map f <$> old.discloseSet? query ids := by
    unfold Credential.discloseSet?
    rw [← mapM_map_eq]
    refine mapM_congr fun id _ => ?_
    cases found : query.claim? id with
    | none => rfl
    | some claim => exact same claim (claim?_eq_some_iff.1 found).1
  unfold match?
  split
  · exact discloseAll
  · simp only [discloseSet, Option.map_eq_map, List.map_findSome?, Function.comp_def]

/-- What a credential has for the declared claims decides what it discloses. -/
theorem match?_congr {old new : Credential}
    (same : ∀ claim ∈ query.claims.toList, old.resolve claim.path = new.resolve claim.path) :
    query.match? old = query.match? new := by
  have disclose : ∀ claim ∈ query.claims.toList,
      old.disclose? claim = (fun d => d) <$> new.disclose? claim := by
    intro claim mem
    rw [id_map']
    unfold Credential.disclose?
    rw [same claim mem]
  have matched := match?_map_of_disclose? disclose
  rwa [List.map_id_fun', id_map] at matched

end CredentialQuery
end WalletQuery
