import WalletQuery.Proofs.Request.Reader

/-! Readers that give a value for what is written for it only: whatever they read is kept, and can
be seen in the value. -/
namespace WalletQuery
variable {α β : Type}

namespace Reader
variable {item : Reader α} {write : α → Json} {name : String} {members : List (String × Json)}

theorem list_eq_ok_iff {value : Json} {as : List α} :
    list item value = .ok as ↔
      ∃ items, value = .arr items ∧ List.Forall₂ (fun v a => item v = .ok a) items as := by
  cases value <;> simp [list, mapM_eq_ok_iff]

theorem nonEmptyList_eq_ok_iff {value : Json} {as : NonEmptyList α} :
    nonEmptyList item value = .ok as ↔ list item value = .ok as.toList := by
  simp only [nonEmptyList, Except.bind_eq_ok_iff]
  constructor
  · intro h
    obtain ⟨items, read, h⟩ := h
    split at h
    · next found =>
      obtain rfl := Except.ok.inj h
      rw [read, NonEmptyList.ofList?_eq_some_iff.1 found]
    · contradiction
  · intro read
    exact ⟨as.toList, read, by simp⟩

theorem member?_eq_ok_some_iff {a : α} :
    member? item name members = .ok (some a) ↔
      ∃ value, members.lookup name = some value ∧ item value = .ok a := by
  unfold member?
  cases members.lookup name <;> simp [Except.map_eq_ok_iff]

theorem optional_eq_ok_some_iff {a : α} :
    optional item name members = .ok (some a) ↔
      ∃ value, members.lookup name = some value ∧ value ≠ .null ∧ item value = .ok a := by
  simp only [optional, Except.map_eq_ok_iff, Option.join_eq_some_iff, exists_eq_right,
    member?_eq_ok_some_iff]
  refine exists_congr fun value => and_congr_right fun _ => ?_
  by_cases null : value = .null
  · subst null
    simp [nullable]
  · simp [nullable_of_ne_null null, null, Except.map_eq_ok_iff]

theorem lookup_of_optional_none (h : optional item name members = .ok none) :
    members.lookup name = none ∨ members.lookup name = some .null := by
  obtain ⟨nested, read, joined⟩ := Except.map_eq_ok_iff.1 h
  cases nested with
  | none =>
    unfold member? at read
    split at read
    · simp [Except.map_eq_ok_iff] at read
    · next absent => exact .inl absent
  | some inner =>
    obtain rfl : inner = none := joined
    obtain ⟨value, found, read⟩ := member?_eq_ok_some_iff.1 read
    by_cases null : value = .null
    · exact .inr (null ▸ found)
    · simp [nullable_of_ne_null null, Except.map_eq_ok_iff] at read

/-- Whatever the reader accepts is written for the value that it gives. -/
def Exact (item : Reader α) (write : α → Json) : Prop :=
  ∀ value a, item value = .ok a → value = write a

theorem exact_any : Exact any fun value => value := by
  intro value a h
  exact Except.ok.inj h

theorem exact_string : Exact string .str := by
  intro value a h
  cases value with
  | str content => exact congrArg Json.str (Except.ok.inj h)
  | _ => contradiction

theorem exact_boolean : Exact boolean .bool := by
  intro value a h
  cases value with
  | bool content => exact congrArg Json.bool (Except.ok.inj h)
  | _ => contradiction

theorem Exact.list (h : Exact item write) : Exact (list item) (Json.ofList write) := by
  intro value as read
  obtain ⟨items, rfl, each⟩ := list_eq_ok_iff.1 read
  have same : items.map (fun value => value) = as.map write := map_eq_map_of_forall₂ each h
  rw [List.map_id'] at same
  rw [same, Json.ofList]

theorem Exact.nonEmptyList (h : Exact item write) :
    Exact (nonEmptyList item) fun as => Json.ofList write as.toList :=
  fun value as read => h.list value as.toList (nonEmptyList_eq_ok_iff.1 read)

theorem Exact.member? (h : Exact item write) {a : α}
    (read : member? item name members = .ok (some a)) : members.lookup name = some (write a) := by
  obtain ⟨value, found, read⟩ := member?_eq_ok_some_iff.1 read
  rw [found, h value a read]

end Reader

theorem PathStep.exact_read : Reader.Exact PathStep.read PathStep.toJson := by
  intro value step h
  cases value with
  | str name =>
    obtain rfl := Except.ok.inj h
    rfl
  | null =>
    obtain rfl := Except.ok.inj h
    rfl
  | int position =>
    simp only [read] at h
    split at h
    · next nonneg =>
      obtain rfl := Except.ok.inj h
      have last := position.le_last
      have kept : ((UInt64.ofNat position.val.toNat).toNat : Int) = position.val := by
        rw [UInt64.toNat_ofNat']
        omega
      exact congrArg Json.int (Ranged.ext kept.symm)
    · contradiction
  | _ => contradiction

theorem ClaimPath.exact_read : Reader.Exact ClaimPath.read ClaimPath.toJson := by
  intro value path h
  obtain ⟨steps, read, rfl⟩ := Except.map_eq_ok_iff.1 h
  exact PathStep.exact_read.nonEmptyList value steps read

end WalletQuery
