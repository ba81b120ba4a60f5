import WalletQuery.Proofs.Traversal
import WalletQuery.Store.Memory

/-! Operations of a memory store, as seen from the list of its credentials. -/
namespace WalletQuery.MemoryStore

/-- A store is fixed by its credentials. -/
theorem ext {store other : MemoryStore} (h : store.credentials = other.credentials) :
    store = other := by
  cases store
  cases other
  congr

theorem lookup_eq_some_iff {store : MemoryStore} {id : String} {credential : Credential} :
    store.lookup id = some credential ↔ credential ∈ store.credentials ∧ credential.id = id :=
  find?_key_eq_some_iff store.distinct

/-- Looking up the listed ids finds the credentials, in their order. -/
theorem filterMap_lookup_ids (store : MemoryStore) :
    store.ids.filterMap store.lookup = store.credentials := by
  unfold ids
  rw [List.filterMap_map]
  have found : ∀ c ∈ store.credentials, (store.lookup ∘ Credential.id) c = some c :=
    fun c h => lookup_eq_some_iff.2 ⟨h, rfl⟩
  rw [List.filterMap_congr found, List.filterMap_some]

theorem add_of_mem {store : MemoryStore} {credential : Credential}
    (h : credential.id ∈ store.ids) :
    store.add credential = .error (.alreadyExists credential.id) := dif_pos h

theorem add_of_not_mem {store : MemoryStore} {credential : Credential}
    (h : credential.id ∉ store.ids) :
    ∃ larger, store.add credential = .ok larger ∧
      larger.credentials = store.credentials ++ [credential] := ⟨_, dif_neg h, rfl⟩

theorem lookup_eq_none_iff {store : MemoryStore} {id : String} :
    store.lookup id = none ↔ id ∉ store.ids := by
  simp [lookup, ids]

theorem add_eq_error_iff {store : MemoryStore} {credential : Credential} {error : StoreError} :
    store.add credential = .error error ↔
      credential.id ∈ store.ids ∧ error = .alreadyExists credential.id := by
  by_cases h : credential.id ∈ store.ids
  · simp [add_of_mem h, h, eq_comm]
  · obtain ⟨larger, added, -⟩ := add_of_not_mem h
    simp [added, h]

theorem add_eq_ok_iff {store larger : MemoryStore} {credential : Credential} :
    store.add credential = .ok larger ↔
      larger.credentials = store.credentials ++ [credential] := by
  by_cases h : credential.id ∈ store.ids
  · have impossible : larger.credentials ≠ store.credentials ++ [credential] := by
      intro same
      have distinct := larger.distinct
      rw [same, List.map_append, List.nodup_append] at distinct
      exact distinct.2.2 _ h _ (List.mem_singleton_self _) rfl
    simp [add_of_mem h, impossible]
  · obtain ⟨other, added, credentials⟩ := add_of_not_mem h
    rw [added, Except.ok.injEq, ← credentials]
    exact ⟨fun same => same ▸ rfl, fun same => ext same.symm⟩

theorem foldlM_add_eq_ok_iff {before after : MemoryStore} {credentials : List Credential} :
    credentials.foldlM add before = .ok after ↔
      after.credentials = before.credentials ++ credentials := by
  induction credentials generalizing before with
  | nil =>
    rw [List.append_nil]
    exact ⟨fun same => Except.ok.inj same ▸ rfl, fun same => congrArg Except.ok (ext same.symm)⟩
  | cons first rest ih =>
    simp only [List.foldlM_cons, Except.bind_eq_ok_iff, add_eq_ok_iff, ih]
    constructor
    · rintro ⟨between, added, all⟩
      simp [all, added]
    · intro all
      -- the store between the additions is made of a part of the credentials of the last one
      have part : (before.credentials ++ [first]).Sublist after.credentials := by simp [all]
      have distinct := after.distinct.sublist (part.map Credential.id)
      exact ⟨⟨_, distinct⟩, rfl, by simp [all]⟩

/-- A store is made of credentials with distinct ids, and holds them in their order. -/
theorem ofCredentials_eq_ok_iff {credentials : List Credential} {store : MemoryStore} :
    ofCredentials credentials = .ok store ↔ store.credentials = credentials :=
  foldlM_add_eq_ok_iff

theorem exists_ofCredentials_iff {credentials : List Credential} :
    (∃ store, ofCredentials credentials = .ok store) ↔
      (credentials.map Credential.id).Nodup := by
  simp only [ofCredentials_eq_ok_iff]
  exact ⟨fun ⟨store, same⟩ => same ▸ store.distinct, fun distinct => ⟨⟨_, distinct⟩, rfl⟩⟩

theorem eraseP_id_eq_filter {credentials : List Credential}
    (distinct : (credentials.map Credential.id).Nodup) (id : String) :
    credentials.eraseP (·.id == id) = credentials.filter (·.id != id) := by
  induction credentials with
  | nil => rfl
  | cons first rest ih =>
    obtain ⟨fresh, distinct⟩ := List.nodup_cons.1 distinct
    by_cases h : first.id = id
    · have keep : rest.filter (·.id != id) = rest := by
        rw [List.filter_eq_self]
        intro other ho
        have ne : other.id ≠ id := fun same =>
          fresh (List.mem_map.2 ⟨other, ho, same.trans h.symm⟩)
        simpa using ne
      simp [h, keep]
    · simp [h, ih distinct]

theorem remove_of_lookup {store : MemoryStore} {id : String} {credential : Credential}
    (h : store.lookup id = some credential) :
    ∃ smaller, store.remove id = .ok (credential, smaller) ∧
      smaller.credentials = store.credentials.filter (·.id != id) := by
  unfold remove
  rw [h]
  exact ⟨_, rfl, eraseP_id_eq_filter store.distinct id⟩

theorem remove_of_lookup_eq_none {store : MemoryStore} {id : String}
    (h : store.lookup id = none) : store.remove id = .error .notFound := by
  unfold remove
  rw [h]

theorem remove_eq_error_iff {store : MemoryStore} {id : String} {error : StoreError} :
    store.remove id = .error error ↔ id ∉ store.ids ∧ error = .notFound := by
  rw [← lookup_eq_none_iff]
  cases h : store.lookup id with
  | none => simp [remove_of_lookup_eq_none h, eq_comm]
  | some credential =>
    obtain ⟨smaller, removed, -⟩ := remove_of_lookup h
    simp [removed]

/-- The others keep their order. -/
theorem remove_eq_ok_iff {store smaller : MemoryStore} {id : String} {credential : Credential} :
    store.remove id = .ok (credential, smaller) ↔ store.lookup id = some credential ∧
      smaller.credentials = store.credentials.filter (·.id != id) := by
  cases h : store.lookup id with
  | none => simp [remove_of_lookup_eq_none h]
  | some found =>
    obtain ⟨other, removed, credentials⟩ := remove_of_lookup h
    rw [removed, Except.ok.injEq, Prod.mk.injEq, Option.some.injEq, ← credentials]
    exact and_congr_right fun _ => ⟨fun same => same ▸ rfl, fun same => ext same.symm⟩

end WalletQuery.MemoryStore
