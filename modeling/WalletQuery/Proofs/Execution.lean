import WalletQuery.Execution
import WalletQuery.Proofs.Selection
import WalletQuery.Proofs.Store.Memory

/-! An execution first looks up credentials, for each credential query in turn, and then answers
from what was found without looking at the store again. -/
namespace WalletQuery
variable {m : Type → Type} [Monad m]

theorem mapM_map_eq_zipWith [LawfulMonad m] {α β γ : Type} (f : α → m β) (g : α → β → γ)
    (xs : List α) : xs.mapM (fun x => g x <$> f x) = List.zipWith g xs <$> xs.mapM f := by
  induction xs with
  | nil => simp
  | cons x xs ih => simp [ih]

namespace CredentialQuery

/-- Looks up the credentials of the store, if the format can match any. -/
def lookups (query : CredentialQuery) (store : Store m) : m (List (Option Credential)) :=
  if query.format.isSupported then store.list >>= fun ids => ids.mapM store.lookup else pure []

def response (query : CredentialQuery) (found : List (Option Credential)) : Response :=
  { query, candidates := query.candidates found }

theorem candidates_nil (query : CredentialQuery) : query.candidates [] = [] := rfl

theorem evaluate_eq_map [LawfulMonad m] (query : CredentialQuery) (store : Store m) :
    query.evaluate store = query.response <$> query.lookups store := by
  unfold evaluate lookups response
  split
  · simp
  · simp [query.candidates_nil]

/-- What a single credential adds to the candidates. -/
def candidate? (query : CredentialQuery) (credential : Credential) : Option Candidate :=
  if query.constraint.accepts credential then (query.match? credential).map (.mk credential)
  else none

theorem candidate?_eq_some_iff {query : CredentialQuery} {credential : Credential}
    {candidate : Candidate} :
    query.candidate? credential = some candidate ↔ candidate.credential = credential ∧
      query.constraint.accepts credential = true ∧
      query.match? credential = some candidate.disclosures := by
  obtain ⟨credential', disclosures⟩ := candidate
  unfold candidate?
  rw [Option.ite_none_right_eq_some, Option.map_eq_some_iff]
  constructor
  · intro ⟨accepted, found, matched, same⟩
    cases same
    exact ⟨rfl, accepted, matched⟩
  · intro ⟨same, accepted, matched⟩
    subst same
    exact ⟨accepted, disclosures, matched, rfl⟩

theorem candidates_eq_filterMap (query : CredentialQuery) (found : List (Option Credential)) :
    query.candidates found = (found.filterMap fun credential => credential).filterMap
      query.candidate? := by
  unfold candidates
  rw [List.filterMap_filterMap]
  congr 1
  funext credential
  cases credential with
  | none => rfl
  | some credential =>
    rw [Option.bind_some, candidate?]
    change (guard (query.constraint.accepts credential) : Option Unit).bind _ = _
    rw [guard]
    split
    · cases query.match? credential <;> rfl
    · rfl

theorem mem_candidates_iff {query : CredentialQuery} {found : List (Option Credential)}
    {candidate : Candidate} :
    candidate ∈ query.candidates found ↔ some candidate.credential ∈ found ∧
      query.constraint.accepts candidate.credential = true ∧
      query.match? candidate.credential = some candidate.disclosures := by
  simp [candidates_eq_filterMap, candidate?_eq_some_iff]

/-- The response from credentials that are all there. -/
def answer (query : CredentialQuery) (credentials : List Credential) : Response :=
  { query, candidates := credentials.filterMap query.candidate? }

theorem accepts_eq_false_of_not_isSupported {query : CredentialQuery}
    (h : query.format.isSupported = false) (credential : Credential) :
    query.constraint.accepts credential = false := by
  by_contra accepted
  have format := Constraint.format_of_accepts (by simpa using accepted) query.applies
  rw [← format] at h
  cases kind : credential.claims <;> simp [Credential.format, Claims.format, kind] at h <;>
    contradiction

/-- For a format without credentials the store need not be asked. -/
theorem answer_of_not_isSupported {query : CredentialQuery} (h : query.format.isSupported = false)
    (credentials : List Credential) : query.answer credentials = query.response [] := by
  have none : credentials.filterMap query.candidate? = [] := by
    simp only [List.filterMap_eq_nil_iff, candidate?]
    intro credential _
    simp [accepts_eq_false_of_not_isSupported h]
  rw [answer, response, candidates_nil, none]

theorem response_map (query : CredentialQuery) (ids : List String)
    (lookup : String → Option Credential) :
    query.response (ids.map lookup) = query.answer (ids.filterMap lookup) := by
  simp [response, answer, candidates_eq_filterMap, List.filterMap_map]

theorem evaluate_memory [LawfulMonad m] (query : CredentialQuery) (store : MemoryStore) :
    query.evaluate (store.toStore : Store m) = pure (query.answer store.credentials) := by
  rw [evaluate_eq_map]
  unfold lookups
  split
  · simp [MemoryStore.toStore, response_map, store.filterMap_lookup_ids]
  · next unsupported => simp [answer_of_not_isSupported (by simpa using unsupported)]

end CredentialQuery

namespace Query

def lookups (query : Query) (store : Store m) : m (List (List (Option Credential))) :=
  query.credentials.toList.mapM (·.lookups store)

def responses (query : Query) (found : List (List (Option Credential))) : List Response :=
  List.zipWith CredentialQuery.response query.credentials.toList found

/-- All effects of an execution are those of the lookups. -/
theorem execute_eq_map [LawfulMonad m] (query : Query) (store : Store m) :
    query.execute store =
      (fun found => select (query.responses found) query.sets) <$> query.lookups store := by
  simp only [execute, evaluate, CredentialQuery.evaluate_eq_map, mapM_map_eq_zipWith,
    bind_map_left]
  exact bind_pure_comp _ _

theorem evaluate_memory [LawfulMonad m] (query : Query) (store : MemoryStore) :
    query.evaluate (store.toStore : Store m) =
      pure (query.credentials.toList.map (·.answer store.credentials)) := by
  simp [evaluate, CredentialQuery.evaluate_memory]

/-- The responses to the credential queries on a memory store, which has no other effects. -/
def evaluated (query : Query) (store : MemoryStore) : List Response :=
  (query.evaluate (store.toStore : Store Id)).run

/-- The outcome on a memory store. -/
def outcome (query : Query) (store : MemoryStore) : Except SelectionError (List Response) :=
  (query.execute (store.toStore : Store Id)).run

theorem evaluated_eq_map (query : Query) (store : MemoryStore) :
    query.evaluated store = query.credentials.toList.map (·.answer store.credentials) := by
  rw [evaluated, evaluate_memory]
  rfl

theorem outcome_eq_select_evaluated (query : Query) (store : MemoryStore) :
    query.outcome store = select (query.evaluated store) query.sets := rfl

theorem outcome_eq_select (query : Query) (store : MemoryStore) :
    query.outcome store =
      select (query.credentials.toList.map (·.answer store.credentials)) query.sets := by
  rw [outcome_eq_select_evaluated, evaluated_eq_map]

theorem nodup_ids_evaluated (query : Query) (store : MemoryStore) :
    ((query.evaluated store).map (·.query.id)).Nodup := by
  rw [evaluated_eq_map, List.map_map]
  exact query.distinct

theorem map_query_responses (query : Query) (found : List (List (Option Credential))) :
    (query.responses found).map Response.query = query.credentials.toList.take found.length := by
  unfold responses
  generalize query.credentials.toList = queries
  induction queries generalizing found with
  | nil => simp
  | cons first rest ih =>
    cases found with
    | nil => rfl
    | cons head tail => simp [CredentialQuery.response, ih]

theorem nodup_ids_responses (query : Query) (found : List (List (Option Credential))) :
    ((query.responses found).map (·.query.id)).Nodup := by
  have h := query.distinct.sublist ((List.take_sublist found.length _).map CredentialQuery.id)
  rw [← map_query_responses, List.map_map] at h
  exact h

theorem mem_responses {query : Query} {found : List (List (Option Credential))}
    {response : Response} (h : response ∈ query.responses found) :
    response.query ∈ query.credentials.toList ∧
      ∃ credentials ∈ found, response = response.query.response credentials := by
  unfold responses at h
  rw [← List.map_uncurry_zip_eq_zipWith, List.mem_map] at h
  obtain ⟨⟨first, credentials⟩, mem, same⟩ := h
  subst same
  obtain ⟨hq, hc⟩ := List.of_mem_zip mem
  exact ⟨hq, credentials, hc, rfl⟩

end Query
end WalletQuery
