import WalletQuery.Proofs.Execution
import WalletQuery.Proofs.RoundTrip

/-! Executions on stores of which calls may fail: an execution fails as the first failing call does,
and if no call fails it makes no difference to list ids that lead to nothing. A failure of the store
is an error of the execution itself; errors of the selection are part of its result. -/
namespace WalletQuery
variable {ε : Type}

inductive StoreCall where
  | list
  | lookup (id : String)

namespace Store
variable (store : Store (Except ε))

/-- Makes the call, and keeps only whether it fails. -/
def attempt : StoreCall → Except ε Unit
  | .list => (fun _ => ()) <$> store.list
  | .lookup id => (fun _ => ()) <$> store.lookup id

def FailsFirst (calls : List StoreCall) (error : ε) : Prop :=
  ∃ call, IsFirst (fun call => ∃ error, store.attempt call = .error error) calls call ∧
    store.attempt call = .error error

/-- The listed ids, or none if they cannot be listed. -/
def listed : List String :=
  match store.list with
  | .ok ids => ids
  | .error _ => []

/-- The credential to which an id leads. -/
def found (id : String) : Option Credential :=
  match store.lookup id with
  | .ok credential? => credential?
  | .error _ => none

/-- The credentials to which the listed ids lead, each as often as its id is listed. -/
def credentials : List Credential := store.listed.filterMap store.found

/-- The store that lists only those ids that lead to a credential. -/
def withoutLost : Store (Except ε) :=
  { store with list := List.filter (fun id => (store.found id).isSome) <$> store.list }

end Store

/-- The calls that answering the query takes, if none of them fails. -/
def CredentialQuery.calls (query : CredentialQuery) (store : Store (Except ε)) : List StoreCall :=
  if query.format.isSupported then .list :: store.listed.map .lookup else []

def Query.calls (query : Query) (store : Store (Except ε)) : List StoreCall :=
  query.credentials.toList.flatMap (·.calls store)

namespace Store
variable {store : Store (Except ε)}

theorem mapM_attempt_eq_error_iff {calls : List StoreCall} {error : ε} :
    calls.mapM store.attempt = .error error ↔ store.FailsFirst calls error :=
  mapM_eq_error_iff

theorem attempt_list_eq_ok_iff : store.attempt .list = .ok () ↔ store.list = .ok store.listed := by
  unfold attempt listed
  cases store.list <;> simp [Functor.map, Except.map]

theorem attempt_lookup_eq_ok_iff {id : String} :
    store.attempt (.lookup id) = .ok () ↔ store.lookup id = .ok (store.found id) := by
  unfold attempt found
  cases answer : store.lookup id <;> simp [answer, Functor.map, Except.map]

theorem credentials_withoutLost : store.withoutLost.credentials = store.credentials := by
  have listed : store.withoutLost.listed =
      store.listed.filter fun id => (store.found id).isSome := by
    unfold Store.listed withoutLost
    cases store.list <;> rfl
  have found (id : String) :
      (if (store.found id).isSome = true then store.found id else none) = store.found id := by
    cases store.found id <;> rfl
  unfold credentials
  rw [listed, List.filterMap_filter]
  exact List.filterMap_congr fun id _ => found id

end Store

namespace CredentialQuery
variable {query : CredentialQuery} {store : Store (Except ε)}

theorem mapM_lookup_eq_error_iff {ids : List String} {error : ε} :
    ids.mapM store.lookup = .error error ↔
      (ids.map StoreCall.lookup).mapM store.attempt = .error error := by
  rw [List.mapM_map]
  exact mapM_eq_error_congr fun _ _ => Except.map_eq_error_iff.symm

/-- The lookups for a credential query fail as its calls do, one after the other. -/
theorem lookups_eq_error_iff {error : ε} :
    query.lookups store = .error error ↔ (query.calls store).mapM store.attempt = .error error := by
  unfold lookups calls
  split
  · rw [List.mapM_cons, Except.bind_eq_error_iff, Except.bind_eq_error_iff]
    refine or_congr Except.map_eq_error_iff.symm ?_
    simp only [bind_pure_comp, Except.map_eq_error_iff, ← mapM_lookup_eq_error_iff]
    constructor
    · intro ⟨ids, listing, failed⟩
      have listed : store.listed = ids := by simp [Store.listed, listing]
      rw [listed]
      exact ⟨(), Except.map_eq_ok_iff.2 ⟨ids, listing, rfl⟩, failed⟩
    · intro ⟨_, listing, failed⟩
      exact ⟨store.listed, Store.attempt_list_eq_ok_iff.1 listing, failed⟩
  · simp [pure, Except.pure]

/-- If no call fails, the response is that to the credentials that were found. -/
theorem evaluate_of_calls (done : ∀ call ∈ query.calls store, store.attempt call = .ok ()) :
    query.evaluate store = .ok (query.answer store.credentials) := by
  rw [evaluate_eq_map]
  unfold calls at done
  unfold lookups
  split
  · next supported =>
    rw [if_pos supported, List.forall_mem_cons, List.forall_mem_map] at done
    have lookups : store.listed.mapM store.lookup = .ok (store.listed.map store.found) :=
      mapM_eq_ok_map fun id mem => Store.attempt_lookup_eq_ok_iff.1 (done.2 id mem)
    rw [Store.attempt_list_eq_ok_iff.1 done.1, Store.credentials, ← response_map]
    exact congrArg (query.response <$> ·) lookups
  · next unsupported =>
    rw [answer_of_not_isSupported (by simpa using unsupported)]
    rfl

/-- Fewer ids are listed, but none for which a call would fail. -/
theorem calls_withoutLost (done : ∀ call ∈ query.calls store, store.attempt call = .ok ()) :
    ∀ call ∈ query.calls store.withoutLost, store.withoutLost.attempt call = .ok () := by
  unfold calls at done ⊢
  split
  · next supported =>
    rw [if_pos supported, List.forall_mem_cons, List.forall_mem_map] at done
    have listing : store.withoutLost.list = .ok
        (store.listed.filter fun id => (store.found id).isSome) :=
      congrArg (List.filter _ <$> ·) (Store.attempt_list_eq_ok_iff.1 done.1)
    rw [List.forall_mem_cons, List.forall_mem_map, Store.listed, listing]
    exact ⟨Except.map_eq_ok_iff.2 ⟨_, listing, rfl⟩,
      fun id mem => done.2 id (List.mem_of_mem_filter mem)⟩
  · exact fun _ mem => nomatch mem

end CredentialQuery

namespace Query
variable {query : Query} {store : Store (Except ε)}

theorem execute_of_calls (done : ∀ call ∈ query.calls store, store.attempt call = .ok ()) :
    query.execute store =
      .ok (select (query.credentials.toList.map (·.answer store.credentials)) query.sets) := by
  have answers : query.evaluate store =
      .ok (query.credentials.toList.map (·.answer store.credentials)) :=
    mapM_eq_ok_map fun q mem => CredentialQuery.evaluate_of_calls fun call called =>
      done call (List.mem_flatMap.2 ⟨q, mem, called⟩)
  unfold execute
  rw [answers]
  rfl

theorem execute_eq_error_iff {error : ε} :
    query.execute store = .error error ↔ store.FailsFirst (query.calls store) error := by
  rw [execute_eq_map, Except.map_eq_error_iff, ← Store.mapM_attempt_eq_error_iff, calls,
    mapM_flatMap, Except.map_eq_error_iff]
  exact mapM_eq_error_congr fun q _ => q.lookups_eq_error_iff

end Query

/-- The first call that fails decides the error, whatever the selection would make of the responses.
If none fails, ids that lead to nothing make no difference, and an id that is listed again gives the
same candidate again. Formats without credentials take no calls, and so nothing can fail. -/
theorem execute_follows_calls (query : Query) (store : Store (Except ε)) :
    (∀ error, query.execute store = .error error ↔
      store.FailsFirst (query.calls store) error) ∧
    ((∀ call ∈ query.calls store, store.attempt call = .ok ()) →
      query.execute store = query.execute store.withoutLost ∧
      query.execute store =
        .ok (select (query.credentials.toList.map (·.answer store.credentials)) query.sets)) ∧
    ((∀ q ∈ query.credentials.toList, q.format.isSupported = false) →
      ∀ error, query.execute store ≠ .error error) := by
  refine ⟨fun error => Query.execute_eq_error_iff, fun done => ?_, fun unsupported error => ?_⟩
  · have doneWithout : ∀ call ∈ query.calls store.withoutLost,
        store.withoutLost.attempt call = .ok () := by
      intro call called
      obtain ⟨q, mem, called⟩ := List.mem_flatMap.1 called
      refine CredentialQuery.calls_withoutLost (fun call called => ?_) call called
      exact done call (List.mem_flatMap.2 ⟨q, mem, called⟩)
    have result := Query.execute_of_calls done
    have resultWithout := Query.execute_of_calls doneWithout
    rw [Store.credentials_withoutLost] at resultWithout
    exact ⟨result.trans resultWithout.symm, result⟩
  · have none : query.calls store = [] := by
      unfold Query.calls
      rw [List.flatMap_eq_nil_iff]
      intro q mem
      rw [CredentialQuery.calls, if_neg (by simp [unsupported q mem])]
    rw [ne_eq, Query.execute_eq_error_iff, none]
    intro ⟨_, first, _⟩
    exact not_isFirst_nil first

/-- Some of the ids that it lists may lead to nothing, and one cannot be looked up. -/
def Store.worn (ids : List String) : Store (Except String) where
  list := .ok ids
  lookup id :=
    match id with
    | "a" => .ok (some (.ofType "card" "a"))
    | "b" => .ok (some (.ofType "passport" "b"))
    | "broken" => .error "out of order"
    | _ => .ok none

/-- One card is listed twice, and the failing lookup is for a query that no set asks for. -/
theorem execute_worn :
    let entrance := Query.cardAndPassport [.discount, .entrance]
    let discount := Query.cardAndPassport [.discount]
    let store := Store.worn ["a", "lost", "b", "a"]
    let locked : Store (Except String) := ⟨.error "locked", fun _ => .error "locked"⟩
    (∀ call ∈ entrance.calls store, store.attempt call = .ok ()) ∧
      entrance.execute store = entrance.execute store.withoutLost ∧
      entrance.execute store = .ok (.ok (Response.entrance ["b"] ["a", "a"])) ∧
      discount.execute (.worn ["a", "broken"]) = .error "out of order" ∧
      ∀ error, (Query.ofFormat "ldp_vc").execute locked ≠ .error error := by
  intro entrance discount store locked
  have done : ∀ call ∈ entrance.calls store, store.attempt call = .ok () :=
    List.forall_iff_forall_mem.1 ⟨rfl, rfl, rfl, rfl, rfl, rfl, rfl, rfl, rfl, rfl⟩
  have before : ∀ call ∈ [StoreCall.list, .lookup "a"],
      ¬∃ error, (Store.worn ["a", "broken"]).attempt call = .error error :=
    List.forall_iff_forall_mem.1 ⟨nofun, nofun⟩
  have broken : (Store.worn ["a", "broken"]).FailsFirst
      (discount.calls (.worn ["a", "broken"])) "out of order" :=
    ⟨.lookup "broken", ⟨⟨_, rfl⟩, _, _, rfl, before⟩, rfl⟩
  obtain ⟨same, result⟩ := (execute_follows_calls entrance store).2.1 done
  refine ⟨done, same, result, (execute_follows_calls discount _).1 _ |>.2 broken, ?_⟩
  refine (execute_follows_calls (.ofFormat "ldp_vc") locked).2.2 fun q mem => ?_
  obtain rfl := List.mem_singleton.1 mem
  rfl

end WalletQuery
