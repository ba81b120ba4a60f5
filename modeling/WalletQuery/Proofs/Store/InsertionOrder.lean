import WalletQuery.Proofs.Selection
import WalletQuery.Proofs.Store.History

/-! A memory store is a map that lists its ids in the order of insertion, after any history in which
stores are made from credentials, and credentials added and removed. -/
namespace WalletQuery

/-- What can be done about the store at hand. -/
inductive StoreOperation where
  /-- Goes on with a store of the credentials. -/
  | new (credentials : List Credential)
  | act (action : StoreAction)

/-- What is known of the store at hand starts with the additions by which it was made. A store
cannot be made if an id repeats, and the one at hand is kept. -/
def StoreOperation.record (actions : List StoreAction) : StoreOperation → List StoreAction
  | new credentials =>
    if (credentials.map Credential.id).Nodup then credentials.map .add else actions
  | act action => actions ++ [action]

/-- The actions on the store at hand. -/
def actionsOf (history : List StoreOperation) : List StoreAction :=
  history.foldl StoreOperation.record []

/-- The last addition to the credential's id that took effect was that of the credential, and the id
was not removed since. -/
def IsLastAdded (history : List StoreAction) (credential : Credential) : Prop :=
  ∃ before after, history = before ++ .add credential :: after ∧
    isHeld before credential.id = false ∧ ∀ action ∈ after, action.removes credential.id = false

/-- The same of actions that follow others. -/
def IsLastAddedFrom (before after : List StoreAction) (credential : Credential) : Prop :=
  ∃ earlier later, after = earlier ++ .add credential :: later ∧
    isHeld (before ++ earlier) credential.id = false ∧
    ∀ action ∈ later, action.removes credential.id = false

/-- The credential was added by the first action or by a later one. -/
theorem isLastAddedFrom_cons_iff {before after : List StoreAction} {action : StoreAction}
    {credential : Credential} :
    IsLastAddedFrom before (action :: after) credential ↔
      (action = .add credential ∧ isHeld before credential.id = false ∧
        ∀ action ∈ after, action.removes credential.id = false) ∨
      IsLastAddedFrom (before ++ [action]) after credential := by
  constructor
  · rintro ⟨earlier, later, same, fresh, kept⟩
    rcases List.cons_eq_append_iff.1 same with ⟨rfl, same⟩ | ⟨earlier, rfl, rest⟩
    · obtain ⟨rfl, rfl⟩ := List.cons.inj same
      exact .inl ⟨rfl, by simpa using fresh, kept⟩
    · exact .inr ⟨earlier, later, rest, by simpa using fresh, kept⟩
  · rintro (⟨rfl, fresh, kept⟩ | ⟨earlier, later, rfl, fresh, kept⟩)
    · exact ⟨[], after, rfl, by simpa using fresh, kept⟩
    · exact ⟨action :: earlier, later, rfl, by simpa using fresh, kept⟩

theorem mem_storedFrom_iff {before after : List StoreAction} {credential : Credential} :
    credential ∈ storedFrom before after ↔ IsLastAddedFrom before after credential := by
  induction after generalizing before with
  | nil => simp [storedFrom, IsLastAddedFrom]
  | cons action after ih =>
    rw [isLastAddedFrom_cons_iff, ← ih]
    cases action with
    | add other =>
      rw [storedFrom]
      split
      · next lost =>
        refine (or_iff_right ?_).symm
        rintro ⟨same, fresh, kept⟩
        cases same
        obtain ⟨action, mem, removes⟩ : ∃ action ∈ after, action.removes credential.id = true := by
          simpa [fresh] using lost
        rw [kept action mem] at removes
        contradiction
      · next held =>
        obtain ⟨fresh, kept⟩ : isHeld before other.id = false ∧
            ∀ action ∈ after, action.removes other.id = false := by simpa using held
        rw [List.mem_cons]
        refine or_congr_left ⟨?_, ?_⟩
        · rintro rfl
          exact ⟨rfl, fresh, kept⟩
        · rintro ⟨same, -⟩
          cases same
          rfl
    | remove id => simp [storedFrom]

namespace MemoryStore

def perform (store : MemoryStore) : StoreOperation → Except StoreError MemoryStore
  | .new credentials => ofCredentials credentials
  | .act (.add credential) => store.add credential
  | .act (.remove id) => Prod.snd <$> store.remove id

/-- An operation that fails leaves the store as it is. -/
def proceed (store : MemoryStore) (operation : StoreOperation) : MemoryStore :=
  match store.perform operation with
  | .ok next => next
  | .error _ => store

def run (history : List StoreOperation) : MemoryStore := history.foldl proceed empty

theorem proceed_act (store : MemoryStore) (action : StoreAction) :
    store.proceed (.act action) = store.act action := by
  cases action with
  | add credential => rfl
  | remove id =>
    unfold proceed perform act
    dsimp only
    rcases store.remove id with error | ⟨credential, smaller⟩ <;> rfl

theorem foldl_act_of_foldlM_add {before after : MemoryStore} {credentials : List Credential}
    (h : credentials.foldlM add before = .ok after) :
    (credentials.map StoreAction.add).foldl act before = after := by
  induction credentials generalizing before with
  | nil => exact Except.ok.inj h
  | cons first rest ih =>
    rw [List.foldlM_cons, Except.bind_eq_ok_iff] at h
    obtain ⟨between, added, rest⟩ := h
    rw [List.map_cons, List.foldl_cons, act, added]
    exact ih rest

/-- What is recorded of an operation has its effect. -/
theorem replay_record (actions : List StoreAction) (operation : StoreOperation) :
    replay (operation.record actions) = (replay actions).proceed operation := by
  cases operation with
  | new credentials =>
    unfold proceed perform StoreOperation.record
    dsimp only
    cases made : ofCredentials credentials with
    | ok store =>
      rw [if_pos (exists_ofCredentials_iff.1 ⟨store, made⟩)]
      exact foldl_act_of_foldlM_add made
    | error error =>
      have repeated : ¬(credentials.map Credential.id).Nodup := by
        intro distinct
        obtain ⟨store, success⟩ := exists_ofCredentials_iff.2 distinct
        rw [made] at success
        contradiction
      rw [if_neg repeated]
  | act action => exact (replay_append_singleton actions action).trans (proceed_act _ action).symm

theorem run_append_singleton (history : List StoreOperation) (operation : StoreOperation) :
    run (history ++ [operation]) = (run history).proceed operation := by
  simp [run]

theorem run_eq_replay (history : List StoreOperation) :
    run history = replay (actionsOf history) := by
  induction history using List.reverseRecOn with
  | nil => rfl
  | append_singleton history operation ih =>
    have recorded : actionsOf (history ++ [operation]) = operation.record (actionsOf history) := by
      simp [actionsOf]
    rw [run_append_singleton, ih, recorded, replay_record]

/-- The store holds what the history says, and finds, refuses and gives away credentials
accordingly. -/
structure Reflects (store : MemoryStore) (history : List StoreAction) : Prop where
  distinct : store.ids.Nodup
  ids_eq : store.ids = (stored history).map Credential.id
  lookup_some : ∀ id credential, store.lookup id = some credential ↔
    credential.id = id ∧ IsLastAdded history credential
  lookup_none : ∀ id, store.lookup id = none ↔ id ∉ store.ids
  add_error : ∀ credential error, store.add credential = .error error ↔
    credential.id ∈ store.ids ∧ error = .alreadyExists credential.id
  remove_error : ∀ id error, store.remove id = .error error ↔ id ∉ store.ids ∧ error = .notFound
  remove_ok : ∀ id credential smaller, store.remove id = .ok (credential, smaller) ↔
    store.lookup id = some credential ∧
      smaller.credentials = store.credentials.filter (·.id != id)

theorem reflects_replay (history : List StoreAction) : (replay history).Reflects history where
  distinct := (replay history).distinct
  ids_eq := by rw [ids, credentials_replay]
  lookup_some id credential := by
    rw [lookup_eq_some_iff, credentials_replay, stored, mem_storedFrom_iff, and_comm]
    rfl
  lookup_none _ := lookup_eq_none_iff
  add_error _ _ := add_eq_error_iff
  remove_error _ _ := remove_eq_error_iff
  remove_ok _ _ _ := remove_eq_ok_iff

/-- After any history the store is the map of the actions on it. Operations are refused by presence
alone, and one that is refused changes nothing. -/
theorem run_reflects (history : List StoreOperation) :
    (run history).Reflects (actionsOf history) ∧
    (∀ operation error, (run history).perform operation = .error error →
      run (history ++ [operation]) = run history) ∧
    ∀ credentials, ((∃ store, ofCredentials credentials = .ok store) ↔
        (credentials.map Credential.id).Nodup) ∧
      ∀ store, ofCredentials credentials = .ok store →
        store.ids = credentials.map Credential.id := by
  refine ⟨run_eq_replay history ▸ reflects_replay _, fun operation error failed => ?_,
    fun credentials => ⟨exists_ofCredentials_iff, fun store made => ?_⟩⟩
  · rw [run_append_singleton, proceed, failed]
  · rw [ids, ofCredentials_eq_ok_iff.1 made]

/-- The second store replaces the first and the third cannot be made. -/
def operations : List StoreOperation :=
  [.act (.add (.ofType "card" "x")), .new [.ofType "card" "a", .ofType "card" "b"],
   .new [.ofType "card" "c", .ofType "card" "c"], .act (.remove "a"),
   .act (.add (.ofType "passport" "a"))]

/-- A passport that is added under the id of a removed card comes last. -/
theorem run_operations_reflects :
    let store := run operations
    let again := StoreOperation.act (.add (.ofType "card" "b"))
    let credentials := [.ofType "card" "b", .ofType "passport" "a"]
    store.Reflects (actionsOf operations) ∧
      store.perform again = .error (.alreadyExists "b") ∧
      run (operations ++ [again]) = store ∧
      store.lookup "a" = some (.ofType "passport" "a") ∧
      ofCredentials credentials = .ok store ∧ store.ids = ["b", "a"] := by
  intro store again credentials
  have refused : store.perform again = .error (.alreadyExists "b") := rfl
  have made : ofCredentials credentials = .ok store := rfl
  obtain ⟨reflects, unchanged, new⟩ := run_reflects operations
  exact ⟨reflects, refused, unchanged _ _ refused, rfl, made, (new _).2 _ made⟩

end MemoryStore
end WalletQuery
