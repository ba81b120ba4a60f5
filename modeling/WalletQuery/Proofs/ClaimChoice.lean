import WalletQuery.Proofs.Matching

/-! Which claims a match discloses: all of them if the query declares no claim sets, else those of
the first claim set that the credential meets. -/
namespace WalletQuery

/-- The credential has a value for the claim, and the value is accepted. -/
def Credential.Holds (credential : Credential) (claim : Claim) : Prop :=
  ∃ value, credential.resolve claim.path = .ok value ∧ value.isAccepted claim.values = true

namespace CredentialQuery

/-- Each id of the claim set is that of a declared claim that the credential holds. -/
def IsMet (query : CredentialQuery) (credential : Credential) (set : ClaimSet) : Prop :=
  ∀ id ∈ set.toList, ∃ claim ∈ query.claims.toList, claim.id = some id ∧ credential.Holds claim

/-- The outcomes of a match. With claim sets, each disclosure is that of the declared claim with an
id of the chosen set, and so no other claim is disclosed. -/
inductive MatchOutcome (query : CredentialQuery) (credential : Credential) :
    Option (List Disclosure) → Prop
  | all {disclosures : List Disclosure} : query.claimSets = [] →
      List.Forall₂ (fun claim d => d.1 = claim ∧ credential.Discloses d) query.claims.toList
        disclosures →
      MatchOutcome query credential (some disclosures)
  | lacking {claim : Claim} : query.claimSets = [] → claim ∈ query.claims.toList →
      ¬credential.Holds claim → MatchOutcome query credential none
  | first {set : ClaimSet} {disclosures : List Disclosure} :
      IsFirst (query.IsMet credential) query.claimSets set →
      List.Forall₂ (fun id d => d.1.id = some id ∧ d.1 ∈ query.claims.toList ∧
        credential.Discloses d) set.toList disclosures →
      MatchOutcome query credential (some disclosures)
  | unmet : query.claimSets ≠ [] → (∀ set ∈ query.claimSets, ¬query.IsMet credential set) →
      MatchOutcome query credential none

end CredentialQuery

namespace Credential
variable {credential : Credential} {query : CredentialQuery}

theorem holds_iff {claim : Claim} :
    credential.Holds claim ↔ ∃ disclosure, credential.disclose? claim = some disclosure := by
  simp only [disclose?_eq_some_iff]
  constructor
  · intro ⟨value, resolved, accepted⟩
    exact ⟨(claim, value), rfl, resolved, accepted⟩
  · rintro ⟨⟨claim, value⟩, rfl, resolved, accepted⟩
    exact ⟨value, resolved, accepted⟩

/-- All claims or nothing. -/
theorem exists_discloseAll?_iff {claims : List Claim} :
    (∃ disclosures, credential.discloseAll? claims = some disclosures) ↔
      ∀ claim ∈ claims, credential.Holds claim := by
  simp only [holds_iff]
  exact exists_mapM_eq_some_iff

theorem exists_discloseSet?_iff {set : ClaimSet} :
    (∃ disclosures, credential.discloseSet? query set.toList = some disclosures) ↔
      query.IsMet credential set := by
  have step (id : String) : (∃ d, (query.claim? id).bind credential.disclose? = some d) ↔
      ∃ claim ∈ query.claims.toList, claim.id = some id ∧ credential.Holds claim := by
    simp only [disclose?_claim?_eq_some_iff]
    constructor
    · intro ⟨d, named, declared, disclosed⟩
      exact ⟨d.1, declared, named, d.2, disclosed⟩
    · intro ⟨claim, declared, named, value, disclosed⟩
      exact ⟨(claim, value), named, declared, disclosed⟩
  unfold discloseSet? CredentialQuery.IsMet
  rw [exists_mapM_eq_some_iff]
  exact forall₂_congr fun id _ => step id

end Credential

namespace CredentialQuery
variable {query : CredentialQuery} {credential : Credential}

/-- What rules a claim set out is an id in it that no claim has, or whose claim does not hold. -/
theorem not_isMet_iff {set : ClaimSet} :
    ¬query.IsMet credential set ↔
      ∃ id ∈ set.toList, (∀ claim ∈ query.claims.toList, claim.id ≠ some id) ∨
        ∃ claim ∈ query.claims.toList, claim.id = some id ∧ ¬credential.Holds claim := by
  unfold IsMet
  constructor
  · intro unmet
    simp only [not_forall, not_exists, not_and] at unmet
    obtain ⟨id, listed, fails⟩ := unmet
    refine ⟨id, listed, ?_⟩
    by_cases undeclared : ∀ claim ∈ query.claims.toList, claim.id ≠ some id
    · exact .inl undeclared
    · simp only [ne_eq, not_forall, not_not] at undeclared
      obtain ⟨claim, declared, named⟩ := undeclared
      exact .inr ⟨claim, declared, named, fails claim declared named⟩
  · intro ⟨id, listed, ruledOut⟩ met
    rcases ruledOut with undeclared | ⟨claim, declared, named, fails⟩
    · obtain ⟨claim, declared, named, -⟩ := met id listed
      exact undeclared claim declared named
    · obtain ⟨other, declared', named', holds⟩ := met id listed
      -- ids are distinct, so that the set cannot be met by another claim
      have found : query.claim? id = some claim := claim?_eq_some_iff.2 ⟨declared, named⟩
      have same : other = claim :=
        Option.some.inj ((claim?_eq_some_iff.2 ⟨declared', named'⟩).symm.trans found)
      exact fails (same ▸ holds)

theorem exists_match?_iff_all (h : query.claimSets = []) :
    (∃ disclosures, query.match? credential = some disclosures) ↔
      ∀ claim ∈ query.claims.toList, credential.Holds claim := by
  rw [match?, if_pos (by simp [h])]
  exact Credential.exists_discloseAll?_iff

theorem exists_match?_iff_met (h : query.claimSets ≠ []) :
    (∃ disclosures, query.match? credential = some disclosures) ↔
      ∃ set ∈ query.claimSets, query.IsMet credential set := by
  simp only [← Credential.exists_discloseSet?_iff, ← Option.isSome_iff_exists]
  rw [match?, if_neg (by simpa using h), List.findSome?_isSome_iff]

theorem match?_eq_some_iff_matchOutcome {disclosures : List Disclosure} :
    query.match? credential = some disclosures ↔
      query.MatchOutcome credential (some disclosures) := by
  by_cases undeclared : query.claimSets = []
  · have pointwise : List.Forall₂ (fun claim d => d.1 = claim ∧ credential.Discloses d)
        query.claims.toList disclosures ↔ query.match? credential = some disclosures := by
      rw [forall₂_view_iff (f := fun claim => claim), List.map_id',
        match?_eq_some_iff_all undeclared]
    rw [← pointwise]
    constructor
    · exact .all undeclared
    · intro outcome
      cases outcome with
      | all _ shown => exact shown
      | first chosen _ =>
        rw [undeclared] at chosen
        exact absurd chosen not_isFirst_nil
  · have met : (fun set : ClaimSet =>
        (credential.discloseSet? query set.toList).isSome = true) = query.IsMet credential := by
      funext set
      rw [Option.isSome_iff_exists, Credential.exists_discloseSet?_iff]
    have pointwise (set : ClaimSet) : List.Forall₂ (fun id d => d.1.id = some id ∧
        d.1 ∈ query.claims.toList ∧ credential.Discloses d) set.toList disclosures ↔
          credential.discloseSet? query set.toList = some disclosures := by
      rw [forall₂_view_iff, Credential.discloseSet?_eq_some_iff]
    rw [match?_eq_some_iff_first undeclared, met]
    simp only [← pointwise]
    constructor
    · intro ⟨set, chosen, shown⟩
      exact .first chosen shown
    · intro outcome
      cases outcome with
      | all none _ => exact absurd none undeclared
      | first chosen shown => exact ⟨_, chosen, shown⟩

theorem match?_eq_none_iff_matchOutcome :
    query.match? credential = none ↔ query.MatchOutcome credential none := by
  have fails : query.match? credential = none ↔
      ¬∃ disclosures, query.match? credential = some disclosures := by
    rw [not_exists, Option.eq_none_iff_forall_ne_some]
  rw [fails]
  by_cases undeclared : query.claimSets = []
  · rw [exists_match?_iff_all undeclared]
    simp only [not_forall, exists_prop]
    constructor
    · intro ⟨claim, declared, lacks⟩
      exact .lacking undeclared declared lacks
    · intro outcome
      cases outcome with
      | lacking _ declared lacks => exact ⟨_, declared, lacks⟩
      | unmet some _ => exact absurd undeclared some
  · rw [exists_match?_iff_met undeclared]
    simp only [not_exists, not_and]
    constructor
    · exact .unmet undeclared
    · intro outcome
      cases outcome with
      | lacking none _ _ => exact absurd none undeclared
      | unmet _ unmet => exact unmet

/-- A search passes over a claim set that is not met. -/
theorem match?_of_not_isMet {front back : List ClaimSet} {set : ClaimSet}
    (sets : query.claimSets = front ++ set :: back) (others : front ++ back ≠ [])
    (unmet : ¬query.IsMet credential set) :
    { query with claimSets := front ++ back }.match? credential = query.match? credential := by
  have nothing : credential.discloseSet? query set.toList = none := by
    rw [Option.eq_none_iff_forall_ne_some]
    intro disclosures disclosed
    exact unmet (Credential.exists_discloseSet?_iff.1 ⟨disclosures, disclosed⟩)
  have without : { query with claimSets := front ++ back }.match? credential =
      (front ++ back).findSome? fun set => credential.discloseSet? query set.toList := by
    rw [match?, if_neg (by simpa using others)]
    rfl
  have declared : query.claimSets ≠ [] := by simp [sets]
  rw [without, match?, if_neg (by simpa using declared), sets]
  simp only [List.findSome?_append, List.findSome?_cons, nothing]

end CredentialQuery

/-- A match has the outcome that the claims and the claim sets prescribe, and no other. A claim set
is ruled out by an id that no claim has, or whose claim the credential does not hold, and then the
others decide as they would without it. -/
theorem match?_eq_iff_matchOutcome (query : CredentialQuery) (credential : Credential) :
    (∀ outcome, query.match? credential = outcome ↔ query.MatchOutcome credential outcome) ∧
    (∀ set, ¬query.IsMet credential set ↔
      ∃ id ∈ set.toList, (∀ claim ∈ query.claims.toList, claim.id ≠ some id) ∨
        ∃ claim ∈ query.claims.toList, claim.id = some id ∧ ¬credential.Holds claim) ∧
    ∀ front set back, query.claimSets = front ++ set :: back → front ++ back ≠ [] →
      ¬query.IsMet credential set →
      { query with claimSets := front ++ back }.match? credential = query.match? credential := by
  refine ⟨fun outcome => ?_, fun set => CredentialQuery.not_isMet_iff,
    fun front set back sets others unmet => CredentialQuery.match?_of_not_isMet sets others unmet⟩
  cases outcome with
  | none => exact CredentialQuery.match?_eq_none_iff_matchOutcome
  | some disclosures => exact CredentialQuery.match?_eq_some_iff_matchOutcome

def Claim.ofElement (element : String) : Claim where
  id := some element
  path := ⟨⟨.key "licence", [.key element]⟩⟩

/-- Of the ages only one is accepted. -/
def Claim.age : Claim :=
  { ofElement "age" with values := some (.singleton (.int ⟨48, by decide, by decide⟩)) }

def Cbor.age : Cbor := .int ⟨48, by decide, by decide⟩

/-- An mdoc with an age and a name. -/
def MdocClaims.licence : MdocClaims :=
  ((MdocClaims.ofDoctype "licence").setElement "licence" "age" .age).setElement
    "licence" "name" (.text "David")

def Credential.licence : Credential where
  id := "licence"
  claims := .mdoc .licence

/-- Asks for a name, an age and whether the holder is adult. No claim set can ask for the portrait,
as that claim has no id. -/
def CredentialQuery.licence (claimSets : List ClaimSet) : CredentialQuery where
  id := "licence"
  format := .msoMdoc
  constraint := .doctype "licence"
  claims := ⟨.ofElement "name", [{ Claim.ofElement "portrait" with id := none }, .age,
    .ofElement "adult"]⟩
  claimSets := claimSets
  index := .ofList [("adult", 3), ("age", 2), ("name", 0)]
  applies := rfl
  indexed := rfl

/-- The first set has a claim that does not hold, the second an id without a claim. -/
theorem match?_licence :
    let adult : ClaimSet := ⟨"name", ["adult"]⟩
    let address : ClaimSet := ⟨"name", ["address"]⟩
    let age : ClaimSet := ⟨"age", ["name", "age"]⟩
    let query := CredentialQuery.licence [adult, address, age, .singleton "name"]
    let disclosures := [(Claim.age, .mdoc .age), (.ofElement "name", .mdoc (.text "David")),
      (.age, .mdoc .age)]
    query.claimSets = [adult] ++ address :: [age, .singleton "name"] ∧
      query.MatchOutcome .licence (some disclosures) ∧ ¬query.IsMet .licence address ∧
      (CredentialQuery.licence [adult, age, .singleton "name"]).match? .licence =
        some disclosures := by
  intro adult address age query disclosures
  obtain ⟨outcome, ruledOut, others⟩ := match?_eq_iff_matchOutcome query .licence
  have matched : query.match? .licence = some disclosures := rfl
  have sets : query.claimSets = [adult] ++ address :: [age, .singleton "name"] := rfl
  have undeclared : ∀ claim ∈ query.claims.toList, claim.id ≠ some "address" := by decide
  have unmet : ¬query.IsMet .licence address :=
    (ruledOut address).2 ⟨"address", by decide, .inl undeclared⟩
  have without := others [adult] address [age, .singleton "name"] sets (by simp) unmet
  exact ⟨sets, (outcome _).1 matched, unmet, without.trans matched⟩

end WalletQuery
