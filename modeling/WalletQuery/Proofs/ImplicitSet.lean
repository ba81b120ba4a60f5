import WalletQuery.Proofs.StoreFailure

/-! A query without credential sets is answered as if one required set asked for all its credential
queries. -/
namespace WalletQuery

theorem flatMap_filter_key {α κ : Type} [BEq κ] [LawfulBEq κ] {key : α → κ} {xs : List α}
    (distinct : (xs.map key).Nodup) :
    ((xs.map key).flatMap fun k => xs.filter (key · == k)) = xs := by
  rw [List.flatMap_map]
  calc
    xs.flatMap (fun x => xs.filter (key · == key x)) = xs.flatMap fun x => [x] :=
      List.flatMap_congr fun x mem => filter_key_eq_singleton distinct mem
    _ = xs := List.flatMap_singleton' xs

/-- The response as it is selected under the set. -/
def Response.markedWith (set : CredentialSet) (response : Response) : Response :=
  { response with set := some set }

namespace Query

/-- The option that lists every credential query, in order. -/
def wholeOption (query : Query) : SetOption where
  head := query.credentials.head.id
  tail := query.credentials.tail.map CredentialQuery.id

/-- The required set that has no other option. -/
def wholeSet (query : Query) (purpose : Json) : CredentialSet where
  purpose := purpose
  required := true
  options := .singleton query.wholeOption

def withWholeSet (query : Query) (purpose : Json) : Query :=
  { query with sets := [query.wholeSet purpose] }

end Query

/-- The outcome in terms of the set: its mark on every response, or its purpose in the error. -/
def CredentialSet.restate (set : CredentialSet) :
    Except SelectionError (List Response) → Except SelectionError (List Response)
  | .ok responses => .ok (responses.map (·.markedWith set))
  | .error _ => .error (.unsatisfiedSet set.purpose)

section
variable {responses : List Response} {set : CredentialSet} {option : SetOption}
  (distinct : (responses.map (·.query.id)).Nodup)
  (lists : option.toList = responses.map (·.query.id)) (only : set.options = .singleton option)
include distinct lists only

/-- As the option lists every response, every response needs a candidate. -/
theorem CredentialSet.isServed_iff_of_lists :
    set.IsServed responses ↔ ∀ response ∈ responses, response.candidates ≠ [] := by
  have single : set.IsServed responses ↔ option.IsServed responses := by
    simp [IsServed, only]
  rw [single, SetOption.IsServed, lists, List.forall_mem_map]
  constructor
  · intro served response mem
    obtain ⟨other, mem', same, candidates⟩ := served response mem
    have eq : other = response := List.inj_on_of_nodup_map distinct mem' mem same
    exact eq ▸ candidates
  · intro matched response mem
    exact ⟨response, mem, rfl, matched response mem⟩

/-- The copies for the listed ids are the responses themselves, in their order. -/
theorem CredentialSet.contribution_of_lists
    (matched : ∀ response ∈ responses, response.candidates ≠ []) :
    set.contribution responses = .ok (responses.map (·.markedWith set)) := by
  have served : set.IsServed responses := (isServed_iff_of_lists distinct lists only).2 matched
  obtain ⟨other, mem, served⟩ := served
  rw [only, NonEmptyList.toList_singleton, List.mem_singleton] at mem
  subst mem
  have found : set.options.toList.find? (·.isSatisfied responses) = some other := by
    simp [only, SetOption.isSatisfied_iff.2 served]
  have copies := congrArg (List.map (·.markedWith set)) (flatMap_filter_key distinct)
  rw [List.map_flatMap] at copies
  unfold contribution
  rw [found]
  simp only [lists]
  exact congrArg Except.ok copies

variable (required : set.required = true)
include required

/-- The search for an option comes to the same as the check of every response. -/
theorem select_of_lists : select responses [set] = set.restate (select responses []) := by
  have declared : [set] ≠ [] := List.cons_ne_nil set []
  by_cases matched : ∀ response ∈ responses, response.candidates ≠ []
  · have whole : select responses [] = .ok responses := select_nil_eq_ok_iff.2 ⟨matched, rfl⟩
    have contribution := CredentialSet.contribution_of_lists distinct lists only matched
    rw [whole, CredentialSet.restate, select_eq_ok_iff declared]
    exact ⟨[_], .cons contribution .nil, by simp⟩
  · have missing : set.IsMissing responses :=
      ⟨required, fun served =>
        matched ((CredentialSet.isServed_iff_of_lists distinct lists only).1 served)⟩
    have first : IsFirst (CredentialSet.IsMissing responses) [set] set :=
      isFirst_cons_iff.2 (.inl ⟨missing, rfl⟩)
    cases whole : select responses [] with
    | ok selected => exact absurd (select_nil_eq_ok_iff.1 whole).1 matched
    | error error => exact (select_eq_error_iff declared).2 ⟨set, first, rfl⟩

end

theorem CredentialSet.restate_eq_ok_iff {set : CredentialSet}
    {outcome : Except SelectionError (List Response)} {selected : List Response} :
    set.restate outcome = .ok selected ↔
      ∃ responses, outcome = .ok responses ∧ selected = responses.map (·.markedWith set) := by
  cases outcome <;> simp [restate, eq_comm]

theorem CredentialSet.restate_eq_error_iff {set : CredentialSet}
    {outcome : Except SelectionError (List Response)} :
    set.restate outcome = .error (.unsatisfiedSet set.purpose) ↔
      ∃ error, outcome = .error error := by
  cases outcome <;> simp [restate]

namespace Query
variable {query : Query} (none : query.sets = []) (purpose : Json)
include none

/-- Whatever the store does, it does in both executions. -/
theorem execute_withWholeSet_eq_map {m : Type → Type} [Monad m] [LawfulMonad m]
    (store : Store m) :
    (query.withWholeSet purpose).execute store =
      (query.wholeSet purpose).restate <$> query.execute store := by
  have whole : (query.withWholeSet purpose).execute store =
      (fun found => select (query.responses found) [query.wholeSet purpose]) <$>
        query.lookups store := execute_eq_map (query.withWholeSet purpose) store
  rw [whole, execute_eq_map, none, Functor.map_map]
  refine map_mapM_congr fun found len => ?_
  have queries : (query.responses found).map Response.query = query.credentials.toList := by
    rw [map_query_responses, len, List.take_length]
  have lists : query.wholeOption.toList = (query.responses found).map (·.query.id) := by
    have ids := congrArg (List.map CredentialQuery.id) queries
    rw [List.map_map] at ids
    exact ids.symm
  exact select_of_lists (query.nodup_ids_responses found) lists rfl rfl

theorem exists_noMatch_of_execute {ε : Type} {store : Store (Except ε)} {error : SelectionError}
    (h : query.execute store = .ok (.error error)) : ∃ id, error = .noMatch id := by
  rw [execute_eq_map, none, Except.map_eq_ok_iff] at h
  obtain ⟨found, -, failed⟩ := h
  obtain ⟨response, -, same⟩ := select_nil_eq_error_iff.1 failed
  exact ⟨response.query.id, same⟩

/-- No set can be unsatisfied where there is none. -/
theorem execute_outcomes {ε : Type} (store : Store (Except ε)) :
    (∃ responses, query.execute store = .ok (.ok responses)) ∨
      (∃ id, query.execute store = .ok (.error (.noMatch id))) ∨
      ∃ error, query.execute store = .error error := by
  rcases done : query.execute store with error | error | responses
  · exact .inr (.inr ⟨error, rfl⟩)
  · obtain ⟨id, same⟩ := exists_noMatch_of_execute none done
    exact .inr (.inl ⟨id, by rw [same]⟩)
  · exact .inl ⟨responses, rfl⟩

/-- A query without credential sets is executed like the one with a required set for all its
credential queries: the effects are the same, and so is the outcome, but that each response is
marked with the set, or that the set's purpose is reported instead of the credential query. -/
theorem execute_withWholeSet :
    (∀ (m : Type → Type) [Monad m] [LawfulMonad m] (store : Store m),
      (query.withWholeSet purpose).execute store =
        (query.wholeSet purpose).restate <$> query.execute store) ∧
    ∀ (ε : Type) (store : Store (Except ε)),
      (∀ selected, (query.withWholeSet purpose).execute store = .ok (.ok selected) ↔
        ∃ responses, query.execute store = .ok (.ok responses) ∧
          selected = responses.map (·.markedWith (query.wholeSet purpose))) ∧
      ((query.withWholeSet purpose).execute store = .ok (.error (.unsatisfiedSet purpose)) ↔
        ∃ id, query.execute store = .ok (.error (.noMatch id))) ∧
      (∀ error, (query.withWholeSet purpose).execute store = .error error ↔
        query.execute store = .error error) ∧
      ((∃ responses, query.execute store = .ok (.ok responses)) ∨
        (∃ id, query.execute store = .ok (.error (.noMatch id))) ∨
        ∃ error, query.execute store = .error error) := by
  refine ⟨fun m _ _ store => execute_withWholeSet_eq_map none purpose store, fun ε store => ?_⟩
  rw [execute_withWholeSet_eq_map none purpose store]
  simp only [Except.map_eq_ok_iff, CredentialSet.restate_eq_ok_iff]
  refine ⟨fun selected => ?_, ?_, fun error => Except.map_eq_error_iff,
    execute_outcomes none store⟩
  · constructor
    · intro ⟨outcome, done, responses, succeeded, same⟩
      exact ⟨responses, succeeded ▸ done, same⟩
    · intro ⟨responses, done, same⟩
      exact ⟨_, done, responses, rfl, same⟩
  · constructor
    · intro ⟨outcome, done, restated⟩
      obtain ⟨error, failed⟩ := CredentialSet.restate_eq_error_iff.1 restated
      rw [failed] at done
      obtain ⟨id, same⟩ := exists_noMatch_of_execute none done
      exact ⟨id, same ▸ done⟩
    · intro ⟨id, done⟩
      exact ⟨_, done, CredentialSet.restate_eq_error_iff.2 ⟨_, rfl⟩⟩

end Query

/-- A passport is missing in the second store, and the third fails. -/
theorem execute_cardAndPassport_withWholeSet :
    let query := Query.cardAndPassport []
    let whole := query.withWholeSet (.str "entrance")
    let set := query.wholeSet (.str "entrance")
    let responses := [Response.ofIds "card" ["a"], .ofIds "passport" ["b"]]
    query.sets = [] ∧ query.execute (.worn ["b", "lost", "a"]) = .ok (.ok responses) ∧
      whole.execute (.worn ["b", "lost", "a"]) =
        .ok (.ok (responses.map (·.markedWith set))) ∧
      query.execute (.worn ["a"]) = .ok (.error (.noMatch "passport")) ∧
      whole.execute (.worn ["a"]) = .ok (.error (.unsatisfiedSet (.str "entrance"))) ∧
      query.execute (.worn ["a", "broken"]) = .error "out of order" ∧
      whole.execute (.worn ["a", "broken"]) = .error "out of order" := by
  intro query whole set responses
  have none : query.sets = [] := rfl
  have found : query.execute (.worn ["b", "lost", "a"]) = .ok (.ok responses) := rfl
  have missed : query.execute (.worn ["a"]) = .ok (.error (.noMatch "passport")) := rfl
  have failed : query.execute (.worn ["a", "broken"]) = .error "out of order" := rfl
  have law := (Query.execute_withWholeSet none (.str "entrance")).2 String
  obtain ⟨success, -⟩ := law (.worn ["b", "lost", "a"])
  obtain ⟨-, missing, -⟩ := law (.worn ["a"])
  obtain ⟨-, -, failure, -⟩ := law (.worn ["a", "broken"])
  exact ⟨none, found, (success _).2 ⟨responses, found, rfl⟩, missed, missing.2 ⟨_, missed⟩, failed,
    (failure _).2 failed⟩

end WalletQuery
