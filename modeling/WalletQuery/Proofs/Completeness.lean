import WalletQuery.Proofs.Execution
import WalletQuery.Proofs.Store.History

/-! A query without credential sets, executed on a memory store, lists every stored credential that
answers it. -/
namespace WalletQuery

def CredentialQuery.isAnsweredBy (query : CredentialQuery) (credential : Credential) : Bool :=
  query.constraint.accepts credential && (query.match? credential).isSome

/-- The response lists the credentials that answer the query, as they are stored. -/
structure Response.Complete (stored : List Credential) (query : CredentialQuery)
    (response : Response) : Prop where
  query_eq : response.query = query
  credentials : response.candidates.map Candidate.credential = stored.filter query.isAnsweredBy
  once : (response.candidates.map (·.credential.id)).Nodup
  disclosures : ∀ candidate ∈ response.candidates,
    query.match? candidate.credential = some candidate.disclosures

namespace CredentialQuery

theorem map_credential_candidate? (query : CredentialQuery) (credential : Credential) :
    (query.candidate? credential).map Candidate.credential =
      Option.guard query.isAnsweredBy credential := by
  unfold candidate? isAnsweredBy
  by_cases accepted : query.constraint.accepts credential = true
  · cases matched : query.match? credential <;> simp [accepted, matched, Option.guard]
  · simp [accepted, Option.guard]

theorem map_credential_answer (query : CredentialQuery) (credentials : List Credential) :
    (query.answer credentials).candidates.map Candidate.credential =
      credentials.filter query.isAnsweredBy := by
  have step : (fun credential => (query.candidate? credential).map Candidate.credential) =
      Option.guard query.isAnsweredBy := funext query.map_credential_candidate?
  rw [answer, List.map_filterMap, step, List.filterMap_eq_filter]

theorem answer_candidates_ne_nil_iff (query : CredentialQuery) (credentials : List Credential) :
    (query.answer credentials).candidates ≠ [] ↔
      ∃ credential ∈ credentials, query.isAnsweredBy credential = true := by
  have h := query.map_credential_answer credentials
  rw [ne_eq, ← List.map_eq_nil_iff (f := Candidate.credential), h, List.filter_eq_nil_iff]
  simp

theorem complete_answer (query : CredentialQuery) (store : MemoryStore) :
    (query.answer store.credentials).Complete store.credentials query where
  query_eq := rfl
  credentials := query.map_credential_answer store.credentials
  once := by
    have sublist := List.filter_sublist (p := query.isAnsweredBy) (l := store.credentials)
    have h := store.distinct.sublist (sublist.map Credential.id)
    rw [← query.map_credential_answer, List.map_map] at h
    exact h
  disclosures := by
    intro candidate h
    obtain ⟨credential, -, same⟩ := List.mem_filterMap.1 h
    obtain ⟨rfl, -, matched⟩ := candidate?_eq_some_iff.1 same
    exact matched

end CredentialQuery

/-- Without credential sets an execution succeeds exactly if each credential query is answered by a
stored credential, and then its responses are complete, one for each credential query in turn. -/
theorem execute_complete {query : Query} (h : query.sets = []) (history : List StoreAction) :
    ((∃ responses, query.outcome (.replay history) = .ok responses) ↔
      ∀ q ∈ query.credentials.toList,
        ∃ credential ∈ stored history, q.isAnsweredBy credential = true) ∧
    (∀ responses, query.outcome (.replay history) = .ok responses →
      List.Forall₂ (Response.Complete (stored history)) query.credentials.toList responses) ∧
    ∀ q : CredentialQuery, q.format.isSupported = false →
      ∀ credential, q.isAnsweredBy credential = false := by
  have run : query.outcome (.replay history) =
      select (query.credentials.toList.map (·.answer (stored history))) [] := by
    rw [Query.outcome_eq_select, h, MemoryStore.credentials_replay]
  refine ⟨?_, ?_, ?_⟩
  · simp only [run, select_nil_eq_ok_iff, List.forall_mem_map,
      CredentialQuery.answer_candidates_ne_nil_iff, exists_and_left, exists_eq', and_true]
  · intro responses success
    rw [run, select_nil_eq_ok_iff] at success
    rw [← success.2, List.forall₂_map_right_iff, List.forall₂_same]
    intro q _
    rw [← MemoryStore.credentials_replay]
    exact q.complete_answer _
  · intro q unsupported credential
    simp [CredentialQuery.isAnsweredBy,
      CredentialQuery.accepts_eq_false_of_not_isSupported unsupported]

/-- Two of the actions fail, and a card that is removed and added again comes last. -/
def StoreAction.history : List StoreAction :=
  [.add (.ofType "card" "a"), .add (.ofType "passport" "b"), .add (.ofType "passport" "a"),
   .add (.ofType "card" "c"), .remove "d", .remove "a", .add (.ofType "card" "a")]

theorem complete_cardAndPassport :
    let query := Query.cardAndPassport []
    let responses := [.ofIds "card" ["c", "a"], .ofIds "passport" ["b"]]
    query.sets = [] ∧ query.outcome (.replay StoreAction.history) = .ok responses ∧
      List.Forall₂ (Response.Complete (stored StoreAction.history)) query.credentials.toList
        responses := by
  intro query responses
  have run : query.outcome (.replay StoreAction.history) = .ok responses := rfl
  exact ⟨rfl, run, (execute_complete rfl StoreAction.history).2.1 responses run⟩

end WalletQuery
