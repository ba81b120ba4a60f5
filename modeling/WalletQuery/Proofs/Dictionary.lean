import Mathlib.Algebra.GroupWithZero.Nat
import Mathlib.Data.List.Induction
import Mathlib.Data.List.Pairwise
import WalletQuery.Dictionary
import WalletQuery.Proofs.Traversal

/-! Lists of named values in ascending order, as they are seen by looking up names. -/
namespace WalletQuery.Entries
variable {α β : Type} {entries : List (String × α)} {name : String}

theorem mem_of_lookup {value : α} (h : entries.lookup name = some value) :
    (name, value) ∈ entries := by
  induction entries with
  | nil => contradiction
  | cons entry rest ih =>
    rw [lookup_cons] at h
    split at h
    · next same =>
      obtain rfl := Option.some.inj h
      exact same ▸ List.mem_cons_self
    · exact List.mem_cons_of_mem _ (ih h)

theorem lookup_map (f : α → β) (entries : List (String × α)) (name : String) :
    (entries.map fun entry => (entry.1, f entry.2)).lookup name = (entries.lookup name).map f := by
  induction entries with
  | nil => rfl
  | cons entry rest ih =>
    obtain ⟨first, value⟩ := entry
    rw [List.map_cons, lookup_cons, lookup_cons, ih]
    split <;> rfl

theorem lookup_erase (name key : String) (entries : List (String × α)) :
    (erase name entries).lookup key = if key = name then none else entries.lookup key := by
  unfold erase
  induction entries with
  | nil => simp
  | cons entry rest ih =>
    obtain ⟨first, value⟩ := entry
    rw [lookup_cons, List.filter_cons]
    by_cases removed : first = name
    · subst removed
      simp only [bne_self_eq_false, Bool.false_eq_true, if_false, ih]
      split <;> rfl
    · have kept : (first != name) = true := by simpa using removed
      rw [if_pos kept, lookup_cons, ih]
      by_cases same : key = first
      · rw [if_pos same, if_pos same, if_neg fun h => removed (same ▸ h)]
      · rw [if_neg same, if_neg same]

theorem lookup_eq_none_of_lt (h : ∀ entry ∈ entries, name < entry.1) :
    entries.lookup name = none := by
  rw [List.lookup_eq_none_iff]
  intro entry mem
  have ne : name ≠ entry.1 := fun same => String.lt_irrefl _ (same ▸ h entry mem)
  simpa using ne

theorem ascending_cons_iff {entry : String × α} :
    Ascending (entry :: entries) ↔ (∀ other ∈ entries, entry.1 < other.1) ∧ Ascending entries := by
  simp [Ascending]

theorem nodup_of_ascending (h : Ascending entries) : (entries.map Prod.fst).Nodup := by
  refine h.imp fun lt same => ?_
  rw [same] at lt
  exact String.lt_irrefl _ lt

theorem ascending_map (f : α → β) (h : Ascending entries) :
    Ascending (entries.map fun entry => (entry.1, f entry.2)) := by
  have names : (entries.map fun entry => (entry.1, f entry.2)).map Prod.fst =
      entries.map Prod.fst := by simp
  rwa [Ascending, names]

/-- Entries that keep their names keep their order. -/
theorem ascending_filterMap {f : String × α → Option (String × β)} (h : Ascending entries)
    (named : ∀ entry other, f entry = some other → other.1 = entry.1) :
    Ascending (entries.filterMap f) := by
  unfold Ascending at h ⊢
  rw [List.pairwise_map] at h ⊢
  refine h.filterMap f fun first second lt a ha b hb => ?_
  rw [named first a ha, named second b hb]
  exact lt

/-- The least name of a list stands first in every list with the same names. -/
theorem head_le_of_lookup {first : String × α} {key : String}
    (h : Ascending (first :: entries)) (found : ((first :: entries).lookup key).isSome = true) :
    first.1 ≤ key := by
  obtain ⟨value, found⟩ := Option.isSome_iff_exists.1 found
  rcases List.mem_cons.1 (mem_of_lookup found) with same | mem
  · exact same ▸ String.le_refl _
  · exact String.not_lt.1 (String.lt_asymm ((ascending_cons_iff.1 h).1 _ mem))

section Related
variable {r : α → β → Prop} {xs : List (String × α)} {ys : List (String × β)}

theorem rel_lookup_of_forall₂ (h : List.Forall₂ (fun x y => x.1 = y.1 ∧ r x.2 y.2) xs ys)
    (name : String) : Option.Rel r (xs.lookup name) (ys.lookup name) := by
  induction h with
  | nil => exact .none
  | cons related _ ih =>
    obtain ⟨same, related⟩ := related
    rw [lookup_cons, lookup_cons, same]
    split
    · exact .some related
    · exact ih

theorem isSome_eq_of_rel {x : Option α} {y : Option β} (h : Option.Rel r x y) :
    x.isSome = y.isSome := by
  cases h <;> rfl

/-- Lists in order are related entry by entry if all look-ups in them are. -/
theorem forall₂_of_rel_lookup (hx : Ascending xs) (hy : Ascending ys)
    (h : ∀ name, Option.Rel r (xs.lookup name) (ys.lookup name)) :
    List.Forall₂ (fun x y => x.1 = y.1 ∧ r x.2 y.2) xs ys := by
  induction xs generalizing ys with
  | nil =>
    cases ys with
    | nil => exact .nil
    | cons y ys =>
      obtain ⟨first, value⟩ := y
      simpa [lookup_cons] using h first
  | cons x xs ih =>
    obtain ⟨first, value⟩ := x
    cases ys with
    | nil => simpa [lookup_cons] using h first
    | cons y ys =>
      obtain ⟨other, value'⟩ := y
      have inX : (((first, value) :: xs).lookup other).isSome = true := by
        rw [isSome_eq_of_rel (h other), lookup_cons, if_pos rfl, Option.isSome_some]
      have inY : (((other, value') :: ys).lookup first).isSome = true := by
        rw [← isSome_eq_of_rel (h first), lookup_cons, if_pos rfl, Option.isSome_some]
      obtain rfl : first = other :=
        String.le_antisymm (head_le_of_lookup hx inX) (head_le_of_lookup hy inY)
      have related : r value value' := by simpa [lookup_cons] using h first
      obtain ⟨ltX, hx⟩ := ascending_cons_iff.1 hx
      obtain ⟨ltY, hy⟩ := ascending_cons_iff.1 hy
      refine .cons ⟨rfl, related⟩ (ih hx hy fun name => ?_)
      by_cases least : name = first
      · rw [least, lookup_eq_none_of_lt ltX, lookup_eq_none_of_lt ltY]
        exact .none
      · simpa [lookup_cons, least] using h name

end Related

/-- Lists in order are the same if all look-ups in them are. -/
theorem eq_of_lookup_eq {xs ys : List (String × α)} (hx : Ascending xs) (hy : Ascending ys)
    (h : ∀ name, xs.lookup name = ys.lookup name) : xs = ys := by
  have related (name : String) : Option.Rel (· = ·) (xs.lookup name) (ys.lookup name) := by
    rw [h name]
    cases ys.lookup name with
    | none => exact .none
    | some value => exact .some rfl
  have same := (forall₂_of_rel_lookup hx hy related).imp fun _ _ same => Prod.ext same.1 same.2
  exact List.forall₂_eq_eq_eq ▸ same

theorem perm_insert {value : α} (fresh : name ∉ entries.map Prod.fst) :
    (insert name value entries).Perm ((name, value) :: entries) := by
  induction entries with
  | nil => exact .refl _
  | cons entry rest ih =>
    obtain ⟨first, other⟩ := entry
    obtain ⟨ne, fresh⟩ := not_or.1 (mt List.mem_cons.2 fresh)
    simp only [insert, if_neg ne]
    split
    · exact .refl _
    · exact ((ih fresh).cons _).trans (.swap ..)

/-- Of pairs with distinct names none is lost. -/
theorem perm_ofList {pairs : List (String × α)} (distinct : (pairs.map Prod.fst).Nodup) :
    (ofList pairs).Perm pairs := by
  have run : ∀ (pairs entries : List (String × α)), ((entries ++ pairs).map Prod.fst).Nodup →
      (pairs.foldl (fun entries pair => insert pair.1 pair.2 entries) entries).Perm
        (entries ++ pairs) := by
    intro pairs
    induction pairs with
    | nil => simp
    | cons pair rest ih =>
      intro entries distinct
      have moved : (entries ++ pair :: rest).Perm ((pair :: entries) ++ rest) := List.perm_middle
      have apart := (moved.map Prod.fst).nodup_iff.1 distinct
      have inserted : (insert pair.1 pair.2 entries ++ rest).Perm ((pair :: entries) ++ rest) := by
        refine (perm_insert fun mem => ?_).append_right rest
        rw [List.cons_append, List.map_cons, List.map_append, List.nodup_cons] at apart
        exact apart.1 (List.mem_append_left _ mem)
      exact (ih _ ((inserted.map Prod.fst).nodup_iff.2 apart)).trans (inserted.trans moved.symm)
  exact run pairs [] distinct

section LastPair
variable {xs ys : List (String × α)}

/-- A name has the value that the last pair with it gives. -/
theorem lookup_ofList (pairs : List (String × α)) (name : String) :
    (ofList pairs).lookup name = pairs.reverse.lookup name := by
  induction pairs using List.reverseRecOn with
  | nil => rfl
  | append_singleton pairs pair ih =>
    have last : ofList (pairs ++ [pair]) = insert pair.1 pair.2 (ofList pairs) := by simp [ofList]
    rw [last, lookup_insert, ih, List.reverse_append, List.reverse_singleton, List.singleton_append,
      lookup_cons]

theorem ofList_eq_ofList_iff :
    ofList xs = ofList ys ↔ ∀ name, xs.reverse.lookup name = ys.reverse.lookup name := by
  simp only [← lookup_ofList]
  constructor
  · intro same name
    rw [same]
  · intro same
    exact eq_of_lookup_eq (ascending_ofList xs) (ascending_ofList ys) same

/-- Pairs that may stand for each other alone may do so among others. -/
theorem ofList_append_congr (front back : List (String × α)) (same : ofList xs = ofList ys) :
    ofList (front ++ xs ++ back) = ofList (front ++ ys ++ back) := by
  rw [ofList_eq_ofList_iff] at same ⊢
  intro name
  simp only [List.reverse_append, List.lookup_append, same name]

/-- The order of pairs with distinct names is of no importance. -/
theorem ofList_eq_of_perm (distinct : (xs.map Prod.fst).Nodup) (h : xs.Perm ys) :
    ofList xs = ofList ys := by
  have distinct' : (ys.map Prod.fst).Nodup := (h.map Prod.fst).nodup_iff.1 distinct
  have perm : (ofList xs).Perm (ofList ys) :=
    (perm_ofList distinct).trans (h.trans (perm_ofList distinct').symm)
  have ascending (pairs : List (String × α)) :
      (ofList pairs).Pairwise fun a b => a.1 < b.1 := List.pairwise_map.1 (ascending_ofList pairs)
  apply perm.eq_of_pairwise _ (ascending xs) (ascending ys)
  intro a b _ _ lt gt
  exact absurd gt (String.lt_asymm lt)

theorem lookup_eq_none_iff : xs.lookup name = none ↔ name ∉ xs.map Prod.fst := by
  simp only [List.lookup_eq_none_iff, List.mem_map, not_exists, not_and, bne_iff_ne]
  exact forall₂_congr fun _ _ => ne_comm

theorem lookup_reverse_eq_none_iff : xs.reverse.lookup name = none ↔ name ∉ xs.map Prod.fst := by
  rw [lookup_eq_none_iff, List.map_reverse, List.mem_reverse]

/-- Every name is kept, and none is made up. -/
theorem mem_names_ofList {pairs : List (String × α)} :
    name ∈ (ofList pairs).map Prod.fst ↔ name ∈ pairs.map Prod.fst := by
  rw [← not_iff_not, ← lookup_eq_none_iff, lookup_ofList, lookup_reverse_eq_none_iff]

theorem lookup_ofList_of_last (front : List (String × α)) {back : List (String × α)}
    (pair : String × α) (last : pair.1 ∉ back.map Prod.fst) :
    (ofList (front ++ pair :: back)).lookup pair.1 = some pair.2 := by
  have none : back.reverse.lookup pair.1 = none := lookup_reverse_eq_none_iff.2 last
  rw [lookup_ofList, List.reverse_append, List.reverse_cons, List.lookup_append, List.lookup_append,
    none, lookup_cons, if_pos rfl, Option.none_or, Option.some_or]

/-- A pair is of no importance if a later one has its name. -/
theorem ofList_cons_of_mem {pair : String × α} (later : pair.1 ∈ xs.map Prod.fst) :
    ofList (pair :: xs) = ofList xs := by
  rw [ofList_eq_ofList_iff]
  intro name
  rw [List.reverse_cons, List.lookup_append]
  by_cases same : name = pair.1
  · have found : xs.reverse.lookup name ≠ none := by
      rw [ne_eq, lookup_reverse_eq_none_iff, same, not_not]
      exact later
    obtain ⟨value, found⟩ := Option.ne_none_iff_exists'.1 found
    rw [found, Option.some_or]
  · rw [lookup_cons, if_neg same, List.lookup_nil, Option.or_none]

end LastPair

theorem sum_insert_le (f : String × α → Nat) {value : α} :
    ((insert name value entries).map f).sum ≤ f (name, value) + (entries.map f).sum := by
  induction entries with
  | nil => simp [insert]
  | cons entry rest ih =>
    obtain ⟨first, other⟩ := entry
    simp only [insert]
    split
    · simp
    · split
      · simp
      · simp only [List.map_cons, List.sum_cons]
        omega

/-- Pairs may be lost, but none is made up. -/
theorem sum_ofList_le (f : String × α → Nat) (pairs : List (String × α)) :
    ((ofList pairs).map f).sum ≤ (pairs.map f).sum := by
  have run : ∀ (pairs entries : List (String × α)),
      ((pairs.foldl (fun entries pair => insert pair.1 pair.2 entries) entries).map f).sum ≤
        (entries.map f).sum + (pairs.map f).sum := by
    intro pairs
    induction pairs with
    | nil => simp
    | cons pair rest ih =>
      intro entries
      have step : _ ≤ f pair + (entries.map f).sum := sum_insert_le f
      have rest := ih (insert pair.1 pair.2 entries)
      simp only [List.foldl_cons, List.map_cons, List.sum_cons]
      omega
  simpa [ofList] using run pairs []

end WalletQuery.Entries

namespace WalletQuery.Dictionary
variable {α β : Type}

/-- Each name keeps its place, with another value. -/
def map (f : α → β) (d : Dictionary α) : Dictionary β where
  entries := d.entries.map fun entry => (entry.1, f entry.2)
  ascending := Entries.ascending_map f d.ascending

theorem get?_map (f : α → β) (d : Dictionary α) (name : String) :
    (d.map f).get? name = (d.get? name).map f :=
  Entries.lookup_map f d.entries name

theorem beq_iff_rel_get? [BEq α] {d other : Dictionary α} :
    (d == other) = true ↔
      ∀ name, Option.Rel (fun x y => (x == y) = true) (d.get? name) (other.get? name) := by
  have entry (x y : String × α) : (x == y) = true ↔ x.1 = y.1 ∧ (x.2 == y.2) = true := by
    change (x.1 == y.1 && x.2 == y.2) = true ↔ _
    rw [Bool.and_eq_true, beq_iff_eq]
  change (d.entries == other.entries) = true ↔ _
  simp only [beq_iff_forall₂, entry]
  constructor
  · exact fun related name => Entries.rel_lookup_of_forall₂ related name
  · exact Entries.forall₂_of_rel_lookup d.ascending other.ascending

end WalletQuery.Dictionary
