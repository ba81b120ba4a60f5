import WalletQuery.Proofs.Traversal
import WalletQuery.Query.ToJson
import WalletQuery.Request.Decode

/-! Laws of the readers of a request: what is written is read back, and what a reader yields. -/
namespace WalletQuery
variable {α β : Type}

/-- Those of the members that have a value. -/
def writtenMembers (fields : List (String × Option Json)) : List (String × Json) :=
  fields.filterMap fun (name, value) => value.map (name, ·)

theorem lookup_writtenMembers {fields : List (String × Option Json)}
    (distinct : (fields.map Prod.fst).Nodup) (name : String) :
    (writtenMembers fields).lookup name = (fields.lookup name).join := by
  induction fields with
  | nil => rfl
  | cons field fields ih =>
    obtain ⟨key, value⟩ := field
    obtain ⟨fresh, distinct⟩ := List.nodup_cons.1 distinct
    have ih := ih distinct
    rw [Entries.lookup_cons]
    unfold writtenMembers at ih ⊢
    by_cases same : name = key
    · subst same
      have absent : fields.lookup name = none := by
        rw [List.lookup_eq_none_iff]
        intro other ho
        have ne : name ≠ other.1 := fun he => fresh (List.mem_map.2 ⟨other, ho, he.symm⟩)
        simpa using ne
      cases value with
      | none => simpa [absent] using ih
      | some value => simp
    · cases value with
      | none => simpa [same] using ih
      | some value => simpa [Entries.lookup_cons, same] using ih

/-- Nothing for an empty list. -/
def listed? (items : List α) : Option (List α) := if items.isEmpty then none else some items

theorem getD_map_listed? (f : α → β) (items : List α) :
    ((listed? items).map (·.map f)).getD [] = items.map f := by
  cases items <;> rfl

theorem ofNonEmpty?_eq (item : α → Json) (items : List α) :
    Json.ofNonEmpty? item items = (listed? items).map (Json.ofList item) := by
  cases items <;> rfl

namespace Reader

theorem list_ofList {item : Reader β} {write : α → Json} {f : α → β} {items : List α}
    (h : ∀ a ∈ items, item (write a) = .ok (f a)) :
    list item (Json.ofList write items) = .ok (items.map f) := by
  simp only [list, Json.ofList, List.mapM_map]
  exact mapM_eq_ok_map h

theorem list_ofList_self {item : Reader α} {write : α → Json} {items : List α}
    (h : ∀ a ∈ items, item (write a) = .ok a) :
    list item (Json.ofList write items) = .ok items := by
  have read : list item (Json.ofList write items) = .ok (items.map fun a => a) := list_ofList h
  rwa [List.map_id'] at read

theorem nonEmptyList_ofList {item : Reader α} {write : α → Json} {items : NonEmptyList α}
    (h : ∀ a ∈ items.toList, item (write a) = .ok a) :
    nonEmptyList item (Json.ofList write items.toList) = .ok items := by
  simp [nonEmptyList, list_ofList_self h, bind, Except.bind]

theorem string_ofStrings (items : NonEmptyList String) :
    list string (Json.ofStrings items) = .ok items.toList :=
  list_ofList_self fun _ _ => rfl

theorem list_any (items : List Json) : list any (.arr items) = .ok items := by
  have read : items.mapM any = .ok (items.map fun item => item) :=
    mapM_eq_ok_map fun _ _ => rfl
  rwa [List.map_id'] at read

theorem nullable_of_ne_null {item : Reader α} {value : Json} (h : value ≠ .null) :
    nullable item value = some <$> item value := by
  cases value with
  | null => exact absurd rfl h
  | _ => rfl

section
variable {fields : List (String × Option Json)} (distinct : (fields.map Prod.fst).Nodup)
  {name : String}
include distinct

theorem member?_written {item : Reader α} {value : Json} {a : α}
    (written : fields.lookup name = some (some value)) (h : item value = .ok a) :
    member? item name (writtenMembers fields) = .ok (some a) := by
  have found := lookup_writtenMembers distinct name
  rw [written, Option.join_some] at found
  simp [member?, found, h, Functor.map, Except.map]

/-- A member that is written with another value than null is read, and one that is not written is
read as missing. -/
theorem optional_written {item : Reader β} {value : Option α} {write : α → Json} {f : α → β}
    (written : fields.lookup name = some (value.map write))
    (h : ∀ a, value = some a → write a ≠ .null ∧ item (write a) = .ok (f a)) :
    optional item name (writtenMembers fields) = .ok (value.map f) := by
  have found := lookup_writtenMembers distinct name
  rw [written, Option.join_some] at found
  unfold optional member?
  rw [found]
  cases value with
  | none => rfl
  | some a =>
    obtain ⟨ne, read⟩ := h a rfl
    simp [nullable_of_ne_null ne, read, Functor.map, Except.map]

theorem optional_written_self {item : Reader α} {value : Option α} {write : α → Json}
    (written : fields.lookup name = some (value.map write))
    (h : ∀ a, value = some a → write a ≠ .null ∧ item (write a) = .ok a) :
    optional item name (writtenMembers fields) = .ok value := by
  have read : optional item name (writtenMembers fields) = .ok (value.map fun a => a) :=
    optional_written distinct written h
  rwa [Option.map_id'] at read

end

/-- Every value that the reader gives has the property. -/
def Yields (item : Reader α) (p : α → Prop) : Prop := ∀ value a, item value = .ok a → p a

section
variable {item : Reader α} {p : α → Prop} (h : Yields item p) {name : String}
  {members : List (String × Json)} {a? : Option α}
include h

theorem Yields.list : Yields (list item) fun items => ∀ a ∈ items, p a := by
  intro value items read a mem
  cases value with
  | arr values =>
    obtain ⟨value, -, read⟩ := exists_of_mem_right (mapM_eq_ok_iff.1 read) mem
    exact h value a read
  | _ => contradiction

theorem Yields.nullable : Yields (nullable item) fun a? => ∀ a, a? = some a → p a := by
  rintro value a? read a rfl
  by_cases null : value = .null
  · subst null
    exact absurd (Except.ok.inj read) (Option.some_ne_none a).symm
  · rw [nullable_of_ne_null null] at read
    obtain ⟨b, read, same⟩ := Except.map_eq_ok_iff.1 read
    exact Option.some.inj same ▸ h value b read

theorem Yields.member? (read : member? item name members = .ok a?) : ∀ a, a? = some a → p a := by
  rintro a rfl
  unfold Reader.member? at read
  split at read
  · next value _ =>
    obtain ⟨b, read, same⟩ := Except.map_eq_ok_iff.1 read
    exact Option.some.inj same ▸ h value b read
  · exact absurd (Except.ok.inj read) (Option.some_ne_none a).symm

theorem Yields.optional (read : optional item name members = .ok a?) :
    ∀ a, a? = some a → p a := by
  rintro a rfl
  obtain ⟨a??, read, joined⟩ := Except.map_eq_ok_iff.1 read
  exact h.nullable.member? read (some a) (Option.join_eq_some_iff.1 joined) a rfl

theorem Yields.element {record : Record} {items : List Json} {position : Nat} {a : α}
    (read : element item record items position = .ok a) : p a := by
  unfold Reader.element at read
  split at read
  · next value _ => exact h value a read
  · contradiction

end

end Reader

theorem present_eq_ok_iff {name : String} {a? : Option α} {a : α} :
    present name a? = .ok a ↔ a? = some a := by
  cases a? <;> simp [present]

end WalletQuery
