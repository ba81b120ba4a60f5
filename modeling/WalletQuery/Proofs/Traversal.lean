import Mathlib.Data.List.Forall2

/-! First elements of lists, and traversals whose steps may fail: what a success says of every
element, and which failure is the one reported. -/
namespace Except
variable {ε α β : Type}

theorem map_eq_ok_iff {f : α → β} {x : Except ε α} {b : β} :
    f <$> x = .ok b ↔ ∃ a, x = .ok a ∧ f a = b := by
  cases x <;> simp [Functor.map, Except.map]

theorem map_eq_error_iff {f : α → β} {x : Except ε α} {e : ε} :
    f <$> x = .error e ↔ x = .error e := by
  cases x <;> simp [Functor.map, Except.map]

theorem bind_eq_ok_iff {x : Except ε α} {f : α → Except ε β} {b : β} :
    x >>= f = .ok b ↔ ∃ a, x = .ok a ∧ f a = .ok b := by
  cases x <;> simp [bind, Except.bind]

theorem bind_eq_error_iff {x : Except ε α} {f : α → Except ε β} {e : ε} :
    x >>= f = .error e ↔ x = .error e ∨ ∃ a, x = .ok a ∧ f a = .error e := by
  cases x <;> simp [bind, Except.bind]

theorem mapError_eq_ok_iff {ε' : Type} {f : ε → ε'} {x : Except ε α} {a : α} :
    x.mapError f = .ok a ↔ x = .ok a := by
  cases x <;> simp [Except.mapError]

end Except

namespace WalletQuery
variable {α β γ ε : Type}

/-- The first element with the property: it stands in the list and none before it has it. -/
def IsFirst (p : α → Prop) (xs : List α) (x : α) : Prop :=
  p x ∧ ∃ before after, xs = before ++ x :: after ∧ ∀ y ∈ before, ¬p y

theorem not_isFirst_nil {p : α → Prop} {x : α} : ¬IsFirst p [] x := by
  intro h
  obtain ⟨-, before, after, h, -⟩ := h
  cases before <;> simp at h

theorem isFirst_cons_iff {p : α → Prop} {a x : α} {xs : List α} :
    IsFirst p (a :: xs) x ↔ (p a ∧ x = a) ∨ (¬p a ∧ IsFirst p xs x) := by
  constructor
  · intro h
    obtain ⟨hx, before, after, h, hb⟩ := h
    cases before with
    | nil =>
      obtain ⟨rfl, rfl⟩ := List.cons.inj h
      exact .inl ⟨hx, rfl⟩
    | cons b before =>
      obtain ⟨rfl, rfl⟩ := List.cons.inj h
      exact .inr ⟨hb a (by simp), hx, before, after, rfl, fun y hy => hb y (by simp [hy])⟩
  · rintro (⟨ha, rfl⟩ | ⟨ha, hx, before, after, rfl, hb⟩)
    · exact ⟨ha, [], xs, rfl, by simp⟩
    · refine ⟨hx, a :: before, after, rfl, ?_⟩
      rintro y (_ | ⟨_, hy⟩)
      · exact ha
      · exact hb y hy

theorem IsFirst.mem {p : α → Prop} {xs : List α} {x : α} (h : IsFirst p xs x) : x ∈ xs := by
  obtain ⟨-, before, after, rfl, -⟩ := h
  simp

theorem IsFirst.eq {p : α → Prop} {xs : List α} {x y : α} (hx : IsFirst p xs x)
    (hy : IsFirst p xs y) : x = y := by
  induction xs with
  | nil => exact absurd hx not_isFirst_nil
  | cons a xs ih =>
    rw [isFirst_cons_iff] at hx hy
    rcases hx with ⟨ha, rfl⟩ | ⟨ha, hx⟩
    · rcases hy with ⟨-, rfl⟩ | ⟨hn, -⟩
      · rfl
      · exact absurd ha hn
    · rcases hy with ⟨hp, -⟩ | ⟨-, hy⟩
      · exact absurd hp ha
      · exact ih hx hy

theorem isFirst_iff_getElem {p : α → Prop} {xs : List α} {x : α} :
    IsFirst p xs x ↔ ∃ i, ∃ inside : i < xs.length, xs[i] = x ∧ p x ∧
      ∀ j (earlier : j < i), ¬p xs[j] := by
  constructor
  · intro h
    obtain ⟨hx, before, after, rfl, none⟩ := h
    refine ⟨before.length, by simp, by simp, hx, fun j earlier => ?_⟩
    rw [List.getElem_append_left earlier]
    exact none _ (List.getElem_mem earlier)
  · rintro ⟨i, inside, rfl, hx, none⟩
    refine ⟨hx, xs.take i, xs.drop (i + 1), ?_, fun y mem => ?_⟩
    · rw [List.getElem_cons_drop, List.take_append_drop]
    · obtain ⟨j, earlier, rfl⟩ := List.mem_take_iff_getElem.1 mem
      exact none j (by omega)

theorem find?_eq_some_iff_isFirst {p : α → Bool} {xs : List α} {x : α} :
    xs.find? p = some x ↔ IsFirst (fun y => p y = true) xs x := by
  simp [List.find?_eq_some_iff_append, IsFirst]

section Key
variable {κ : Type} [BEq κ] [LawfulBEq κ] {key : α → κ} {xs ys : List α}

/-- Of elements with distinct keys, a single one has the key of a given one. -/
theorem filter_key_eq_singleton (distinct : (xs.map key).Nodup) {x : α} (h : x ∈ xs) :
    xs.filter (key · == key x) = [x] := by
  induction xs with
  | nil => cases h
  | cons first rest ih =>
    obtain ⟨fresh, distinct⟩ := List.nodup_cons.1 distinct
    rcases List.mem_cons.1 h with rfl | h
    · have none : rest.filter (key · == key x) = [] := by
        rw [List.filter_eq_nil_iff]
        intro other ho he
        exact fresh (List.mem_map.2 ⟨other, ho, by simpa using he⟩)
      simp [none]
    · have ne : key first ≠ key x := fun he => fresh (List.mem_map.2 ⟨x, h, he.symm⟩)
      simpa [ne] using ih distinct h

/-- A search by key finds the one element that has it. -/
theorem find?_key_eq_some_iff (distinct : (xs.map key).Nodup) {k : κ} {x : α} :
    xs.find? (key · == k) = some x ↔ x ∈ xs ∧ key x = k := by
  constructor
  · intro found
    exact ⟨List.mem_of_find?_eq_some found, by simpa using List.find?_some found⟩
  · rintro ⟨mem, rfl⟩
    rw [← List.head?_filter, filter_key_eq_singleton distinct mem, List.head?_cons]

/-- As a single element has the key at most, there is no order to be lost. -/
theorem filter_key_eq_of_perm (distinct : (xs.map key).Nodup) {k : κ}
    (h : (xs.filter (key · == k)).Perm (ys.filter (key · == k))) :
    xs.filter (key · == k) = ys.filter (key · == k) := by
  by_cases present : ∃ x ∈ xs, key x = k
  · obtain ⟨x, hx, rfl⟩ := present
    rw [filter_key_eq_singleton distinct hx] at h ⊢
    exact List.singleton_perm.1 h
  · have none : xs.filter (key · == k) = [] := by
      rw [List.filter_eq_nil_iff]
      intro x hx same
      exact present ⟨x, hx, by simpa using same⟩
    rw [none] at h ⊢
    exact (List.nil_perm.1 h).symm

end Key

theorem findSome?_eq_some_iff_isFirst {f : α → Option β} {xs : List α} {y : β} :
    xs.findSome? f = some y ↔ ∃ x, IsFirst (fun x => (f x).isSome = true) xs x ∧ f x = some y := by
  rw [List.findSome?_eq_some_iff]
  constructor
  · intro ⟨before, x, after, hxs, hx, hb⟩
    exact ⟨x, ⟨by simp [hx], before, after, hxs, fun a ha => by simp [hb a ha]⟩, hx⟩
  · intro ⟨x, ⟨_, before, after, hxs, hb⟩, hx⟩
    exact ⟨before, x, after, hxs, hx, fun a ha => by simpa using hb a ha⟩

theorem findSome?_congr {f g : α → Option β} {xs : List α} (h : ∀ x ∈ xs, f x = g x) :
    xs.findSome? f = xs.findSome? g := by
  induction xs with
  | nil => rfl
  | cons x xs ih =>
    have rest := ih fun y hy => h y (List.mem_cons_of_mem _ hy)
    rw [List.findSome?_cons, List.findSome?_cons, h x List.mem_cons_self, rest]

/-- The element that a search uses stands at the first position where the search has a result. -/
theorem findSome?_eq_some_iff_findIdx? {f : α → Option β} {xs : List α} {y : β} :
    xs.findSome? f = some y ↔
      ∃ i x, xs.findIdx? (fun x => (f x).isSome) = some i ∧ xs[i]? = some x ∧ f x = some y := by
  induction xs with
  | nil => simp
  | cons first rest ih =>
    rw [List.findSome?_cons, List.findIdx?_cons]
    cases found : f first with
    | some z => simp [found]
    | none => simp [ih]

/-- A search that more elements pass ends no later. -/
theorem findIdx?_mono {p q : α → Bool} {xs : List α} (h : ∀ x ∈ xs, p x = true → q x = true)
    {i : Nat} (found : xs.findIdx? p = some i) : ∃ j ≤ i, xs.findIdx? q = some j := by
  obtain ⟨inside, holds, -⟩ := List.findIdx?_eq_some_iff_getElem.1 found
  have passes : q xs[i] = true := h _ (List.getElem_mem inside) holds
  cases search : xs.findIdx? q with
  | none =>
    have fails := List.findIdx?_eq_none_iff.1 search _ (List.getElem_mem inside)
    rw [passes] at fails
    contradiction
  | some j =>
    refine ⟨j, ?_, rfl⟩
    obtain ⟨_, -, fails⟩ := List.findIdx?_eq_some_iff_getElem.1 search
    by_contra later
    exact fails i (by omega) passes

/-- Two lists that agree under two views, and a property of every element of the second. -/
theorem forall₂_view_iff {f : α → γ} {g : β → γ} {p : β → Prop} {xs : List α} {ys : List β} :
    List.Forall₂ (fun x y => g y = f x ∧ p y) xs ys ↔ ys.map g = xs.map f ∧ ∀ y ∈ ys, p y := by
  induction xs generalizing ys with
  | nil => cases ys <;> simp
  | cons x xs ih =>
    cases ys with
    | nil => simp
    | cons y ys =>
      simp only [List.forall₂_cons, ih, List.map_cons, List.cons.injEq, List.forall_mem_cons]
      exact and_and_and_comm

theorem exists_of_mem_right {r : α → β → Prop} {xs : List α} {ys : List β}
    (h : List.Forall₂ r xs ys) {y : β} (hy : y ∈ ys) : ∃ x ∈ xs, r x y := by
  induction h with
  | nil => cases hy
  | cons head _ ih =>
    rcases List.mem_cons.1 hy with same | hy
    · subst same
      exact ⟨_, List.mem_cons_self, head⟩
    · obtain ⟨x, hx, hr⟩ := ih hy
      exact ⟨x, List.mem_cons_of_mem _ hx, hr⟩

theorem exists_of_mem_left {r : α → β → Prop} {xs : List α} {ys : List β}
    (h : List.Forall₂ r xs ys) {x : α} (hx : x ∈ xs) : ∃ y ∈ ys, r x y :=
  exists_of_mem_right h.flip hx

theorem map_eq_map_of_forall₂ {r : α → β → Prop} {f : α → γ} {g : β → γ} {xs : List α}
    {ys : List β} (h : List.Forall₂ r xs ys) (same : ∀ x y, r x y → f x = g y) :
    xs.map f = ys.map g := by
  induction h with
  | nil => rfl
  | cons head _ ih => rw [List.map_cons, List.map_cons, same _ _ head, ih]

theorem forall₂_trans {r : α → β → Prop} {s : β → γ → Prop} {xs : List α} {ys : List β}
    {zs : List γ} (h : List.Forall₂ r xs ys) (k : List.Forall₂ s ys zs) :
    List.Forall₂ (fun x z => ∃ y, r x y ∧ s y z) xs zs := by
  induction h generalizing zs with
  | nil =>
    cases k
    exact .nil
  | cons head _ ih =>
    cases k with
    | cons next rest => exact .cons ⟨_, head, next⟩ (ih rest)

/-- Of two relations in turn, the values in between make up one list. -/
theorem forall₂_comp_iff {r : α → β → Prop} {s : β → γ → Prop} {xs : List α} {zs : List γ} :
    List.Forall₂ (fun x z => ∃ y, r x y ∧ s y z) xs zs ↔
      ∃ ys, List.Forall₂ r xs ys ∧ List.Forall₂ s ys zs := by
  constructor
  · intro h
    induction h with
    | nil => exact ⟨[], .nil, .nil⟩
    | cons head _ ih =>
      obtain ⟨y, hr, hs⟩ := head
      obtain ⟨ys, left, right⟩ := ih
      exact ⟨y :: ys, .cons hr left, .cons hs right⟩
  · intro h
    obtain ⟨ys, left, right⟩ := h
    exact forall₂_trans left right

/-- What is kept of elements that are kept is kept. -/
theorem sublistForall₂_filterMap {δ : Type} {r : α → β → Prop} {s : γ → δ → Prop}
    {f : α → Option γ} {g : β → Option δ} {xs : List α} {ys : List β}
    (h : List.SublistForall₂ r xs ys)
    (keeps : ∀ x y, r x y → ∀ a, f x = some a → ∃ b, g y = some b ∧ s a b) :
    List.SublistForall₂ s (xs.filterMap f) (ys.filterMap g) := by
  induction h with
  | nil => exact .nil
  | @cons x y _ _ head _ ih =>
    rw [List.filterMap_cons, List.filterMap_cons]
    cases found : f x with
    | some a =>
      obtain ⟨b, kept, related⟩ := keeps x y head a found
      rw [kept]
      exact .cons related ih
    | none =>
      cases g y with
      | some b => exact .cons_right ih
      | none => exact ih
  | @cons_right y _ _ _ ih =>
    rw [List.filterMap_cons]
    cases g y with
    | some b => exact .cons_right ih
    | none => exact ih

theorem beq_iff_forall₂ [BEq α] {xs ys : List α} :
    (xs == ys) = true ↔ List.Forall₂ (fun x y => (x == y) = true) xs ys := by
  induction xs generalizing ys with
  | nil => cases ys <;> simp
  | cons x xs ih =>
    cases ys with
    | nil => simp
    | cons y ys => rw [List.cons_beq_cons, Bool.and_eq_true, List.forall₂_cons, ih]

theorem mapM_congr {m : Type → Type} [Monad m] [LawfulMonad m] {f g : α → m β} {xs : List α}
    (h : ∀ x ∈ xs, f x = g x) : xs.mapM f = xs.mapM g := by
  induction xs with
  | nil => simp
  | cons x xs ih =>
    have rest := ih fun y hy => h y (List.mem_cons_of_mem _ hy)
    rw [List.mapM_cons, List.mapM_cons, h x List.mem_cons_self, rest]

theorem mapM_eq_mapM_of_forall₂ {m : Type → Type} [Monad m] [LawfulMonad m] {f : α → m γ}
    {g : β → m γ} {xs : List α} {ys : List β} (h : List.Forall₂ (fun x y => f x = g y) xs ys) :
    xs.mapM f = ys.mapM g := by
  induction h with
  | nil => rfl
  | cons head _ ih => rw [List.mapM_cons, List.mapM_cons, head, ih]

/-- Of the results of a traversal it may be assumed that they are one for each element. -/
theorem map_mapM_congr {m : Type → Type} [Monad m] [LawfulMonad m] {f : α → m β}
    {g h : List β → γ} {xs : List α} (same : ∀ ys, ys.length = xs.length → g ys = h ys) :
    g <$> xs.mapM f = h <$> xs.mapM f := by
  induction xs generalizing g h with
  | nil => simp [same [] rfl]
  | cons x xs ih =>
    have rest (y : β) : (fun ys => g (y :: ys)) <$> xs.mapM f =
        (fun ys => h (y :: ys)) <$> xs.mapM f :=
      ih fun ys len => same (y :: ys) (congrArg (· + 1) len)
    simp only [List.mapM_cons, map_bind, bind_pure_comp, Functor.map_map, rest]

theorem mapM_flatMap {m : Type → Type} [Monad m] [LawfulMonad m] (f : α → List β) (g : β → m γ)
    (xs : List α) : (xs.flatMap f).mapM g = List.flatten <$> xs.mapM fun x => (f x).mapM g := by
  induction xs with
  | nil => simp
  | cons x xs ih => simp [ih]

theorem mapM_map_eq {m : Type → Type} [Monad m] [LawfulMonad m] (g : β → γ) (h : α → m β)
    (xs : List α) : xs.mapM (fun x => g <$> h x) = List.map g <$> xs.mapM h := by
  induction xs with
  | nil => simp
  | cons x xs ih => simp [ih]

/-- Replacing an element by one with the same result keeps what a traversal gives. -/
theorem mapM_set_eq {f : α → Except ε β} {xs : List α} {i : Nat} {old new : α}
    (found : xs[i]? = some old) (same : f old = f new) :
    xs.mapM f = (xs.set i new).mapM f := by
  induction xs generalizing i with
  | nil => simp at found
  | cons first rest ih =>
    cases i with
    | zero =>
      obtain rfl : first = old := Option.some.inj found
      rw [List.set_cons_zero, List.mapM_cons, List.mapM_cons, same]
    | succ i =>
      have found : rest[i]? = some old := found
      rw [List.set_cons_succ, List.mapM_cons, List.mapM_cons, ih found]

/-- A traversal succeeds with the results of its steps, one for each element. -/
theorem mapM_eq_ok_iff {f : α → Except ε β} {xs : List α} {ys : List β} :
    xs.mapM f = .ok ys ↔ List.Forall₂ (fun x y => f x = .ok y) xs ys := by
  induction xs generalizing ys with
  | nil => cases ys <;> simp [pure, Except.pure]
  | cons x xs ih =>
    simp only [List.mapM_cons, Except.bind_eq_ok_iff, ih, List.forall₂_cons_left_iff]
    constructor
    · intro h
      obtain ⟨y, hy, ys, hys, h⟩ := h
      exact ⟨y, ys, hy, hys, (Except.ok.inj h).symm⟩
    · intro h
      obtain ⟨y, ys, hy, hys, rfl⟩ := h
      exact ⟨y, hy, ys, hys, rfl⟩

theorem mapM_eq_ok_map {f : α → Except ε β} {g : α → β} {xs : List α}
    (h : ∀ x ∈ xs, f x = .ok (g x)) : xs.mapM f = .ok (xs.map g) := by
  rw [mapM_eq_ok_iff, List.forall₂_map_right_iff, List.forall₂_same]
  exact h

theorem mapM_eq_some_iff {f : α → Option β} {xs : List α} {ys : List β} :
    xs.mapM f = some ys ↔ List.Forall₂ (fun x y => f x = some y) xs ys := by
  induction xs generalizing ys with
  | nil => simp [eq_comm]
  | cons x xs ih =>
    simp only [List.mapM_cons, Option.bind_eq_bind, Option.bind_eq_some_iff, ih,
      List.forall₂_cons_left_iff, Option.pure_def, Option.some.injEq]
    constructor
    · intro h
      obtain ⟨y, hy, ys, hys, rfl⟩ := h
      exact ⟨y, ys, hy, hys, rfl⟩
    · intro h
      obtain ⟨y, ys, hy, hys, rfl⟩ := h
      exact ⟨y, hy, ys, hys, rfl⟩

theorem exists_mapM_eq_some_iff {f : α → Option β} {xs : List α} :
    (∃ ys, xs.mapM f = some ys) ↔ ∀ x ∈ xs, ∃ y, f x = some y := by
  constructor
  · intro ⟨ys, h⟩ x mem
    obtain ⟨y, -, hy⟩ := exists_of_mem_left (mapM_eq_some_iff.1 h) mem
    exact ⟨y, hy⟩
  · intro h
    have pointwise : ∃ ys, List.Forall₂ (fun x y => f x = some y) xs ys := by
      induction xs with
      | nil => exact ⟨[], .nil⟩
      | cons x xs ih =>
        obtain ⟨head, tail⟩ := List.forall_mem_cons.1 h
        obtain ⟨y, hy⟩ := head
        obtain ⟨ys, hys⟩ := ih tail
        exact ⟨y :: ys, .cons hy hys⟩
    obtain ⟨ys, hys⟩ := pointwise
    exact ⟨ys, mapM_eq_some_iff.2 hys⟩

/-- A traversal fails as the first failing step does. -/
theorem mapM_eq_error_iff {f : α → Except ε β} {xs : List α} {e : ε} :
    xs.mapM f = .error e ↔ ∃ x, IsFirst (fun y => ∃ e, f y = .error e) xs x ∧ f x = .error e := by
  induction xs with
  | nil => simp [pure, Except.pure, not_isFirst_nil]
  | cons x xs ih =>
    simp only [List.mapM_cons, isFirst_cons_iff]
    cases h : f x with
    | error e' =>
      simp only [bind, Except.bind]
      constructor
      · intro he
        obtain rfl := Except.error.inj he
        exact ⟨x, .inl ⟨⟨e', rfl⟩, rfl⟩, h⟩
      · rintro ⟨y, ⟨-, rfl⟩ | ⟨hn, -⟩, hy⟩
        · exact congrArg Except.error (Except.error.inj (h.symm.trans hy))
        · exact absurd ⟨e', rfl⟩ hn
    | ok y =>
      simp only [Except.bind_eq_error_iff, ih]
      simp [pure, Except.pure]

/-- Steps that fail alike make traversals that fail alike, whatever the steps give. -/
theorem mapM_eq_error_congr {f : α → Except ε β} {g : α → Except ε γ}
    (same : ∀ x e, f x = .error e ↔ g x = .error e) {xs : List α} {e : ε} :
    xs.mapM f = .error e ↔ xs.mapM g = .error e := by
  simp only [mapM_eq_error_iff, same]

end WalletQuery
