import Mathlib.Data.List.Induction
import WalletQuery.Proofs.Store.Memory

/-! What a memory store holds after any history of additions and removals, failed ones included:
the credentials whose addition took effect and was not undone, in the order of the additions. -/
namespace WalletQuery

inductive StoreAction where
  | add (credential : Credential)
  | remove (id : String)

namespace StoreAction

def id : StoreAction → String
  | add credential => credential.id
  | remove id => id

def isAdd : StoreAction → Bool
  | add _ => true
  | remove _ => false

def removes (action : StoreAction) (id : String) : Bool := !action.isAdd && action.id == id

@[simp] theorem removes_add (credential : Credential) (id : String) :
    (add credential).removes id = false := rfl

@[simp] theorem removes_remove (other id : String) :
    (remove other).removes id = (other == id) := rfl

end StoreAction

/-- Whether the last action on the id is an addition. -/
def isHeld (history : List StoreAction) (id : String) : Bool :=
  (history.reverse.find? (·.id == id)).any StoreAction.isAdd

/-- The credentials that `after` adds, to ids that are not held then, and does not remove again. -/
def storedFrom (before : List StoreAction) : List StoreAction → List Credential
  | [] => []
  | .add credential :: after =>
    if isHeld before credential.id || after.any (·.removes credential.id) then
      storedFrom (before ++ [.add credential]) after
    else credential :: storedFrom (before ++ [.add credential]) after
  | .remove id :: after => storedFrom (before ++ [.remove id]) after

def stored (history : List StoreAction) : List Credential := storedFrom [] history

theorem isHeld_append_singleton (history : List StoreAction) (action : StoreAction) (id : String) :
    isHeld (history ++ [action]) id =
      if action.id = id then action.isAdd else isHeld history id := by
  by_cases h : action.id = id <;> simp [isHeld, h]

theorem storedFrom_append_add (before after : List StoreAction) (credential : Credential) :
    storedFrom before (after ++ [.add credential]) = storedFrom before after ++
      if isHeld (before ++ after) credential.id then [] else [credential] := by
  induction after generalizing before with
  | nil => simp [storedFrom]
  | cons action after ih =>
    cases action with
    | add other =>
      simp only [List.cons_append, storedFrom, ih, List.append_assoc, List.nil_append,
        List.any_append, List.any_cons, List.any_nil, StoreAction.removes_add, Bool.or_false]
      split <;> rfl
    | remove id => simp [storedFrom, ih]

theorem storedFrom_append_remove (before after : List StoreAction) (id : String) :
    storedFrom before (after ++ [.remove id]) =
      (storedFrom before after).filter (·.id != id) := by
  induction after generalizing before with
  | nil => rfl
  | cons action after ih =>
    cases action with
    | add other =>
      simp only [List.cons_append, storedFrom, ih, List.any_append, List.any_cons, List.any_nil,
        StoreAction.removes_remove, Bool.or_false]
      by_cases same : id = other.id
      · simp only [same, beq_self_eq_true, Bool.or_true, if_true]
        split <;> simp
      · have ne : other.id ≠ id := fun h => same h.symm
        simp only [beq_false_of_ne same, Bool.or_false]
        split <;> simp [ne]
    | remove other => simp [storedFrom, ih]

namespace MemoryStore

/-- An action that fails leaves the store as it is. -/
def act (store : MemoryStore) : StoreAction → MemoryStore
  | .add credential =>
    match store.add credential with
    | .ok store => store
    | .error _ => store
  | .remove id =>
    match store.remove id with
    | .ok (_, store) => store
    | .error _ => store

def replay (history : List StoreAction) : MemoryStore := history.foldl act empty

theorem replay_append_singleton (history : List StoreAction) (action : StoreAction) :
    replay (history ++ [action]) = (replay history).act action := by
  simp [replay]

theorem act_add_credentials (store : MemoryStore) (credential : Credential) :
    (store.act (.add credential)).credentials =
      store.credentials ++ if credential.id ∈ store.ids then [] else [credential] := by
  unfold act
  by_cases h : credential.id ∈ store.ids
  · simp [add_of_mem h, h]
  · obtain ⟨larger, added, credentials⟩ := add_of_not_mem h
    simp [added, credentials, h]

theorem act_remove_credentials (store : MemoryStore) (id : String) :
    (store.act (.remove id)).credentials = store.credentials.filter (·.id != id) := by
  unfold act
  cases h : store.lookup id with
  | some credential =>
    obtain ⟨smaller, removed, credentials⟩ := remove_of_lookup h
    simp [removed, credentials]
  | none =>
    have absent : store.credentials.filter (·.id != id) = store.credentials := by
      simpa [List.filter_eq_self, lookup] using h
    simp [remove_of_lookup_eq_none h, absent]

/-- A store holds exactly the ids whose last action is an addition. -/
theorem mem_ids_replay_iff {history : List StoreAction} {id : String} :
    id ∈ (replay history).ids ↔ isHeld history id = true := by
  induction history using List.reverseRecOn with
  | nil => simp [replay, ids, empty, isHeld]
  | append_singleton history action ih =>
    rw [replay_append_singleton, isHeld_append_singleton]
    cases action with
    | add credential =>
      have held : id ∈ ((replay history).act (.add credential)).ids ↔
          id ∈ (replay history).ids ∨ id = credential.id := by
        unfold ids
        rw [act_add_credentials]
        by_cases h : credential.id ∈ (replay history).ids
        · grind [ids]
        · simp [h]
      rw [held, ih, StoreAction.id, StoreAction.isAdd]
      by_cases same : credential.id = id
      · simp [same]
      · simp [same, Ne.symm same]
    | remove other =>
      have held : id ∈ ((replay history).act (.remove other)).ids ↔
          id ∈ (replay history).ids ∧ id ≠ other := by
        unfold ids
        rw [act_remove_credentials]
        grind
      rw [held, ih, StoreAction.id, StoreAction.isAdd]
      by_cases same : other = id
      · simp [same]
      · simp [same, Ne.symm same]

theorem credentials_replay (history : List StoreAction) :
    (replay history).credentials = stored history := by
  -- a later removal takes a credential out of the middle, so the last action is split off
  induction history using List.reverseRecOn with
  | nil => rfl
  | append_singleton history action ih =>
    rw [replay_append_singleton]
    unfold stored at ih ⊢
    cases action with
    | add credential =>
      rw [act_add_credentials, ih, storedFrom_append_add]
      simp only [mem_ids_replay_iff, List.nil_append]
    | remove id => rw [act_remove_credentials, ih, storedFrom_append_remove]

end MemoryStore
end WalletQuery
