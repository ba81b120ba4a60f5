/-! Named values in ascending order of their names; each name is there once. -/
namespace WalletQuery
variable {α : Type}

/-! Operations on lists of named values; on a list in order they keep the order. -/
namespace Entries

def Ascending (entries : List (String × α)) : Prop := (entries.map Prod.fst).Pairwise (· < ·)

instance (entries : List (String × α)) : Decidable (Ascending entries) := by
  unfold Ascending; infer_instance

/-- Sets the value of a name, in the place that the order gives to it. -/
def insert (name : String) (value : α) : List (String × α) → List (String × α)
  | [] => [(name, value)]
  | (key, other) :: rest =>
    if name = key then (name, value) :: rest
    else if name < key then (name, value) :: (key, other) :: rest
    else (key, other) :: insert name value rest

def erase (name : String) (entries : List (String × α)) : List (String × α) :=
  entries.filter (·.1 != name)

/-- Of several values for one name the last is kept. -/
def ofList (pairs : List (String × α)) : List (String × α) :=
  pairs.foldl (fun entries pair => insert pair.1 pair.2 entries) []

theorem lookup_cons (key name : String) (value : α) (rest : List (String × α)) :
    ((name, value) :: rest).lookup key = if key = name then some value else rest.lookup key := by
  rw [List.lookup_cons]
  by_cases h : key = name
  · simp [h]
  · simp [beq_false_of_ne h, h]

theorem lookup_insert (name key : String) (value : α) (entries : List (String × α)) :
    (insert name value entries).lookup key =
      if key = name then some value else entries.lookup key := by
  induction entries with
  | nil => simp [insert, lookup_cons]
  | cons entry rest ih =>
    obtain ⟨first, other⟩ := entry
    simp only [insert]
    split
    · next h =>
      subst h
      simp only [lookup_cons]
      split <;> rfl
    · split
      · simp only [lookup_cons]
      · next h _ =>
        simp only [lookup_cons, ih]
        by_cases k : key = first
        · simp [k, Ne.symm h]
        · simp [k]

theorem mem_map_fst_insert {name key : String} {value : α} {entries : List (String × α)} :
    key ∈ (insert name value entries).map Prod.fst ↔ key = name ∨ key ∈ entries.map Prod.fst := by
  induction entries with
  | nil => simp [insert]
  | cons entry rest ih =>
    obtain ⟨first, other⟩ := entry
    simp only [insert]
    split
    · next h => simp [h]
    · split
      · simp
      · simp only [List.map_cons, List.mem_cons, ih]
        grind

theorem ascending_insert {name : String} {value : α} {entries : List (String × α)}
    (h : Ascending entries) : Ascending (insert name value entries) := by
  induction entries with
  | nil => simp [insert, Ascending]
  | cons entry rest ih =>
    obtain ⟨first, other⟩ := entry
    simp only [Ascending, List.map_cons, List.pairwise_cons] at h
    simp only [insert]
    split
    · next eq =>
      subst eq
      simpa [Ascending] using h
    · split
      · next lt =>
        simp only [Ascending, List.map_cons, List.pairwise_cons]
        refine ⟨fun key mem => ?_, h⟩
        rcases List.mem_cons.1 mem with rfl | mem
        · exact lt
        · exact String.lt_trans lt (h.1 key mem)
      · next ne not_lt =>
        have lt : first < name := by
          rcases Decidable.em (first < name) with lt | ge
          · exact lt
          · exact absurd (String.le_antisymm (String.not_lt.1 ge) (String.not_lt.1 not_lt)) ne
        simp only [Ascending, List.map_cons, List.pairwise_cons]
        refine ⟨fun key mem => ?_, ih h.2⟩
        rcases mem_map_fst_insert.1 mem with rfl | mem
        · exact lt
        · exact h.1 key mem

theorem ascending_erase {name : String} {entries : List (String × α)} (h : Ascending entries) :
    Ascending (erase name entries) :=
  List.Pairwise.sublist (List.Sublist.map Prod.fst List.filter_sublist) h

theorem ascending_ofList (pairs : List (String × α)) : Ascending (ofList pairs) := by
  have step : ∀ (pairs entries : List (String × α)), Ascending entries →
      Ascending (pairs.foldl (fun entries pair => insert pair.1 pair.2 entries) entries) := by
    intro pairs
    induction pairs with
    | nil => exact fun _ h => h
    | cons pair rest ih => exact fun entries h => ih _ (ascending_insert h)
  exact step pairs [] List.Pairwise.nil

theorem insert_of_forall_lt {name : String} {value : α} {entries : List (String × α)}
    (h : ∀ entry ∈ entries, entry.1 < name) :
    insert name value entries = entries ++ [(name, value)] := by
  induction entries with
  | nil => rfl
  | cons entry rest ih =>
    obtain ⟨first, other⟩ := entry
    have lt : first < name := h (first, other) (by simp)
    have ne : name ≠ first := fun eq => String.lt_irrefl first (eq ▸ lt)
    rw [insert, if_neg ne, if_neg (String.lt_asymm lt), ih fun entry mem => h entry (by simp [mem])]
    rfl

/-- Entries that are in order are kept as they are. -/
theorem ofList_of_ascending {entries : List (String × α)} (h : Ascending entries) :
    ofList entries = entries := by
  have step : ∀ (pairs done : List (String × α)), Ascending (done ++ pairs) →
      pairs.foldl (fun entries pair => insert pair.1 pair.2 entries) done = done ++ pairs := by
    intro pairs
    induction pairs with
    | nil => simp
    | cons pair rest ih =>
      intro done h
      have last : ∀ entry ∈ done, entry.1 < pair.1 := by
        intro entry mem
        rw [Ascending, List.map_append, List.pairwise_append] at h
        exact h.2.2 entry.1 (List.mem_map_of_mem mem) pair.1 (by simp)
      rw [List.foldl_cons, insert_of_forall_lt last, ih _ (by simpa using h)]
      simp
  exact step entries [] h

end Entries

structure Dictionary (α : Type) where
  entries : List (String × α)
  ascending : Entries.Ascending entries

namespace Dictionary

def empty : Dictionary α := ⟨[], List.Pairwise.nil⟩

instance : EmptyCollection (Dictionary α) := ⟨empty⟩

instance : Inhabited (Dictionary α) := ⟨empty⟩

instance [BEq α] : BEq (Dictionary α) := ⟨fun a b => a.entries == b.entries⟩

instance [BEq α] [ReflBEq α] : ReflBEq (Dictionary α) := ⟨fun {d} => beq_self_eq_true d.entries⟩

def ofList (pairs : List (String × α)) : Dictionary α :=
  ⟨Entries.ofList pairs, Entries.ascending_ofList pairs⟩

@[simp] theorem ofList_entries (d : Dictionary α) : ofList d.entries = d := by
  simp only [ofList, Entries.ofList_of_ascending d.ascending]

def get? (d : Dictionary α) (name : String) : Option α := d.entries.lookup name

def insert (d : Dictionary α) (name : String) (value : α) : Dictionary α :=
  ⟨Entries.insert name value d.entries, Entries.ascending_insert d.ascending⟩

def erase (d : Dictionary α) (name : String) : Dictionary α :=
  ⟨Entries.erase name d.entries, Entries.ascending_erase d.ascending⟩

theorem get?_empty (name : String) : (∅ : Dictionary α).get? name = none := rfl

theorem get?_insert (d : Dictionary α) (name key : String) (value : α) :
    (d.insert name value).get? key = if key = name then some value else d.get? key :=
  Entries.lookup_insert name key value d.entries

end Dictionary
end WalletQuery
