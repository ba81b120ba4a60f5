import WalletQuery.Proofs.Execution
import WalletQuery.Proofs.Location
import WalletQuery.Proofs.Matching

/-! What no claim path of a query addresses has no influence on the outcome of the query. -/
namespace WalletQuery

def Candidate.withRecord (record : Credential) (candidate : Candidate) : Candidate :=
  if candidate.credential.id = record.id then { candidate with credential := record }
  else candidate

namespace Response
variable {f : Candidate → Candidate} {response : Response}

def mapCandidates (f : Candidate → Candidate) (response : Response) : Response :=
  { response with candidates := response.candidates.map f }

/-- The response with the record in the place of the credential that has its id. -/
def withRecord (record : Credential) (response : Response) : Response :=
  response.mapCandidates (·.withRecord record)

@[simp] theorem query_mapCandidates : (response.mapCandidates f).query = response.query := rfl

@[simp] theorem isMatched_mapCandidates :
    (response.mapCandidates f).isMatched = response.isMatched := by
  simp [isMatched, mapCandidates]

end Response

section
variable (f : Candidate → Candidate) (responses : List Response)

theorem SetOption.isSatisfied_mapCandidates (option : SetOption) :
    option.isSatisfied (responses.map (·.mapCandidates f)) = option.isSatisfied responses := by
  simp [isSatisfied, List.any_map, Function.comp_def]

theorem CredentialSet.contribution_mapCandidates (set : CredentialSet) :
    set.contribution (responses.map (·.mapCandidates f)) =
      List.map (·.mapCandidates f) <$> set.contribution responses := by
  unfold contribution
  simp only [SetOption.isSatisfied_mapCandidates]
  split
  · simp [Functor.map, Except.map, List.map_flatMap, List.filter_map, Function.comp_def,
      Response.mapCandidates]
  · split <;> rfl

/-- A selection does not look at the candidates, only at whether there are any. -/
theorem select_mapCandidates (sets : List CredentialSet) :
    select (responses.map (·.mapCandidates f)) sets =
      List.map (·.mapCandidates f) <$> select responses sets := by
  unfold select
  split
  · rw [List.find?_map]
    simp only [Function.comp_def, Response.isMatched_mapCandidates]
    cases responses.find? (!·.isMatched) <;> rfl
  · simp only [CredentialSet.contribution_mapCandidates, mapM_map_eq, Functor.map_map,
      List.map_flatten]

end

/-- No claim path of the query addresses what stands at the location. -/
def Query.Avoids (query : Query) (location : Location) : Prop :=
  ∀ q ∈ query.credentials.toList, ∀ claim ∈ q.claims.toList, claim.path.Avoids location

/-- The stores are the same but for one credential, which has another value, or none, at the
location. -/
def MemoryStore.AgreeBut (location : Location) (new : Credential) (before after : MemoryStore) :
    Prop :=
  ∃ front old back, before.credentials = front ++ old :: back ∧
    after.credentials = front ++ new :: back ∧ old.AgreeBut location new

namespace CredentialQuery
variable {query : CredentialQuery} {location : Location}

theorem candidate?_of_agreeBut {old new : Credential} (agree : old.AgreeBut location new)
    (avoids : ∀ claim ∈ query.claims.toList, claim.path.Avoids location) :
    query.candidate? new = (query.candidate? old).map (·.withRecord new) := by
  have accepts := Constraint.accepts_eq_of_agreeBut agree query.constraint
  have found : query.match? old = query.match? new :=
    match?_congr fun claim mem => agree.resolve_eq (avoids claim mem)
  unfold candidate?
  rw [accepts, found]
  split
  · simp [Candidate.withRecord, agree.id, Function.comp_def]
  · rfl

theorem candidate?_of_ne {record credential : Credential} (h : credential.id ≠ record.id) :
    query.candidate? credential = (query.candidate? credential).map (·.withRecord record) := by
  unfold candidate?
  split
  · simp [Candidate.withRecord, h, Function.comp_def]
  · rfl

theorem answer_of_agreeBut {new : Credential} {before after : MemoryStore}
    (agree : MemoryStore.AgreeBut location new before after)
    (avoids : ∀ claim ∈ query.claims.toList, claim.path.Avoids location) :
    query.answer after.credentials = (query.answer before.credentials).withRecord new := by
  obtain ⟨front, old, back, inBefore, inAfter, agree⟩ := agree
  have distinct := after.distinct
  rw [inAfter, List.map_append, List.map_cons, List.nodup_append, List.nodup_cons] at distinct
  obtain ⟨-, ⟨notBehind, -⟩, notBefore⟩ := distinct
  -- ids are distinct, so the record replaces no other credential
  have kept : ∀ others : List Credential, (∀ credential ∈ others, credential.id ≠ new.id) →
      others.filterMap query.candidate? =
        others.filterMap fun credential => (query.candidate? credential).map (·.withRecord new) :=
    fun others h => List.filterMap_congr fun credential mem => candidate?_of_ne (h credential mem)
  have inFront : ∀ credential ∈ front, credential.id ≠ new.id := fun credential mem =>
    notBefore _ (List.mem_map_of_mem mem) _ List.mem_cons_self
  have inBack : ∀ credential ∈ back, credential.id ≠ new.id := fun credential mem same =>
    notBehind (same ▸ List.mem_map_of_mem mem)
  have candidates : after.credentials.filterMap query.candidate? =
      (before.credentials.filterMap query.candidate?).map (·.withRecord new) := by
    rw [inBefore, inAfter, List.map_filterMap, List.filterMap_append, List.filterMap_append,
      List.filterMap_cons, List.filterMap_cons, candidate?_of_agreeBut agree avoids,
      ← kept front inFront, ← kept back inBack]
  exact congrArg (Response.mk query none) candidates

end CredentialQuery

/-- Whatever stands at a location that all claim paths avoid, the outcome is the same: the same
error, or the same responses with the same disclosures. -/
theorem Query.outcome_of_agreeBut {query : Query} {location : Location} {new : Credential}
    {before after : MemoryStore} (agree : MemoryStore.AgreeBut location new before after)
    (avoids : query.Avoids location) :
    query.outcome after = List.map (·.withRecord new) <$> query.outcome before := by
  have answers : query.credentials.toList.map (·.answer after.credentials) =
      (query.credentials.toList.map (·.answer before.credentials)).map (·.withRecord new) := by
    rw [List.map_map]
    exact List.map_congr_left fun q mem => CredentialQuery.answer_of_agreeBut agree (avoids q mem)
  rw [outcome_eq_select, outcome_eq_select, answers]
  exact select_mapCandidates _ _ _

/-- Two degrees, the second with further members. -/
def Json.degrees (more : List (String × Json)) : Json :=
  .arr [.obj [("name", .str "BSc")], .obj (("name", .str "MSc") :: more)]

def Credential.diploma (more : List (String × Json)) : Credential where
  id := "diploma"
  claims := .sdJwt ⟨"diploma", .ofList [("degrees", .degrees more)]⟩

def MemoryStore.withDiploma (more : List (String × Json)) : MemoryStore where
  credentials := [.ofType "card" "card", .diploma more]
  distinct := (by decide : ["card", "diploma"].Nodup)

def Claim.degreeNames : Claim where
  path := ⟨⟨.key "degrees", [.wildcard, .key "name"]⟩⟩

def Query.degreeNames : Query where
  credentials := .singleton
    { id := "diploma"
      format := .sdJwtVc
      constraint := .vct (.singleton "diploma")
      claims := .singleton .degreeNames
      claimSets := []
      index := ∅
      applies := rfl
      indexed := rfl }
  sets := []
  distinct := List.nodup_singleton "diploma"

/-- The wildcard runs over the degree that loses its year, but the path goes on to the names. -/
theorem outcome_degreeNames_of_year_removed :
    let location := .member [.key "degrees", .index 1, .key "year"]
    let before := .withDiploma [("year", .str "2020")]
    MemoryStore.AgreeBut location (.diploma []) before (.withDiploma []) ∧
      Query.degreeNames.Avoids location ∧
      Query.degreeNames.outcome (.withDiploma []) =
        List.map (·.withRecord (.diploma [])) <$> Query.degreeNames.outcome before ∧
      ∃ responses, Query.degreeNames.outcome before = .ok responses := by
  intro location before
  have year : Json.AgreeBut [.key "year"] (.obj [("name", .str "MSc"), ("year", .str "2020")])
      (.obj [("name", .str "MSc")]) := Json.agreeBut_erase "year" _
  have agree : MemoryStore.AgreeBut location (.diploma []) before (.withDiploma []) := by
    refine ⟨[.ofType "card" "card"], _, [], rfl, rfl, rfl, ?_⟩
    refine .member (.key rfl rfl (fun other ne => ?_) (.index rfl year))
    change List.lookup other [("degrees", _)] = List.lookup other [("degrees", _)]
    rw [Entries.lookup_cons, Entries.lookup_cons, if_neg ne, if_neg ne]
  have avoids : Query.degreeNames.Avoids location := by
    intro q mem claim mem'
    obtain rfl := List.mem_singleton.1 mem
    obtain rfl := List.mem_singleton.1 mem'
    exact ⟨2, .key "name", .key "year", rfl, rfl, (by decide : "name" ≠ "year")⟩
  exact ⟨agree, avoids, Query.outcome_of_agreeBut agree avoids, _, rfl⟩

end WalletQuery
