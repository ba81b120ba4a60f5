import WalletQuery.Store.Memory

/-! Handles to memory stores; several handles may share one store. -/
namespace WalletQuery

/-- A handle is a position in `handles`, where the position of its store stands. -/
structure SharedStores where
  stores : List MemoryStore
  handles : List Nat

namespace SharedStores

/-- One handle to an empty store. -/
def initial : SharedStores := ⟨[.empty], [0]⟩

def get? (shared : SharedStores) (handle : Nat) : Option MemoryStore := do
  let position ← shared.handles[handle]?
  shared.stores[position]?

/-- Replaces the store of a handle, for all handles that share it. -/
def set (shared : SharedStores) (handle : Nat) (store : MemoryStore) : SharedStores :=
  match shared.handles[handle]? with
  | some position => { shared with stores := shared.stores.set position store }
  | none => shared

/-- Adds a handle to a new store. -/
def addStore (shared : SharedStores) (store : MemoryStore) : SharedStores :=
  { stores := shared.stores ++ [store], handles := shared.handles ++ [shared.stores.length] }

/-- Adds a handle that shares the store of another. -/
def share (shared : SharedStores) (handle : Nat) : SharedStores :=
  match shared.handles[handle]? with
  | some position => { shared with handles := shared.handles ++ [position] }
  | none => shared

end SharedStores
end WalletQuery
