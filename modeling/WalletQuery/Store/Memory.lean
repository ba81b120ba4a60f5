import WalletQuery.Credential

/-! Stores of credentials, as a query sees them, and a store that holds credentials in the order in
which they were added. -/
namespace WalletQuery

/-- What a store answers may depend on effects of `m`, such as failure. -/
structure Store (m : Type → Type) where
  /-- The ids of the stored credentials. -/
  list : m (List String)
  lookup : String → m (Option Credential)

structure MemoryStore where
  credentials : List Credential
  distinct : (credentials.map Credential.id).Nodup

inductive StoreError where
  | alreadyExists (id : String)
  | notFound
  deriving DecidableEq

def StoreError.message : StoreError → String
  | alreadyExists id => "credential " ++ id ++ " already exists"
  | notFound => "credential not found"

namespace MemoryStore

def empty : MemoryStore := ⟨[], List.Pairwise.nil⟩

def ids (store : MemoryStore) : List String := store.credentials.map Credential.id

def lookup (store : MemoryStore) (id : String) : Option Credential :=
  store.credentials.find? (·.id == id)

def add (store : MemoryStore) (credential : Credential) : Except StoreError MemoryStore :=
  if present : credential.id ∈ store.credentials.map Credential.id then
    .error (.alreadyExists credential.id)
  else
    .ok { credentials := store.credentials ++ [credential]
          distinct := by
            simp only [List.map_append, List.map_cons, List.map_nil, List.nodup_append,
              store.distinct, List.nodup_cons, List.not_mem_nil, not_false_eq_true,
              List.nodup_nil, and_self, List.mem_singleton, true_and]
            rintro id mem _ rfl rfl
            exact present mem }

/-- The store without the credential, and the credential. -/
def remove (store : MemoryStore) (id : String) : Except StoreError (Credential × MemoryStore) :=
  match store.lookup id with
  | some credential =>
    .ok (credential,
      { credentials := store.credentials.eraseP (·.id == id)
        distinct := List.Nodup.sublist (List.eraseP_sublist.map Credential.id) store.distinct })
  | none => .error .notFound

def ofCredentials (credentials : List Credential) : Except StoreError MemoryStore :=
  credentials.foldlM add empty

/-- Listing and lookup never fail. -/
def toStore {m : Type → Type} [Pure m] (store : MemoryStore) : Store m where
  list := pure store.ids
  lookup id := pure (store.lookup id)

end MemoryStore
end WalletQuery
