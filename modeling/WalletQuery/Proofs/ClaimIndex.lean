import WalletQuery.Proofs.Traversal
import WalletQuery.Query.Basic
import WalletQuery.Query.CredentialQuery

/-! What the index of a credential query says of its claims: it is made exactly if no id repeats,
and then an id leads to the one claim that has it. -/
namespace WalletQuery
namespace ClaimIndex
variable {index next : ClaimIndex} {claims : List Claim} {id : String} {position : Nat}

/-- A claim without an id leaves the index as it is, and an id has to be new. -/
theorem enter_eq_ok_iff {entry : Claim × Nat} :
    index.enter entry = .ok next ↔ entry.1.id = none ∧ index = next ∨
      ∃ id, entry.1.id = some id ∧ index.get? id = none ∧ index.insert id entry.2 = next := by
  unfold enter
  cases named : entry.1.id with
  | none => simp
  | some id =>
    dsimp only
    cases entered : index.get? id with
    | none => simp [entered]
    | some position => simp [entered]

theorem enter_eq_error_iff {entry : Claim × Nat} :
    index.enter entry = .error id ↔ entry.1.id = some id ∧ index.get? id ≠ none := by
  unfold enter
  cases named : entry.1.id with
  | none => simp
  | some name =>
    dsimp only
    cases entered : index.get? name with
    | none =>
      simp only [reduceCtorEq, Option.some.injEq, false_iff, not_and, ne_eq, not_not]
      rintro rfl
      exact entered
    | some position =>
      simp only [Except.error.injEq, Option.some.injEq, ne_eq]
      constructor
      · rintro rfl
        exact ⟨rfl, by simp [entered]⟩
      · exact And.left

theorem get?_of_enter {entry : Claim × Nat} (h : index.enter entry = .ok next) :
    next.get? id = some position ↔
      index.get? id = some position ∨ entry.1.id = some id ∧ entry.2 = position := by
  rcases enter_eq_ok_iff.1 h with ⟨unnamed, rfl⟩ | ⟨name, named, fresh, rfl⟩
  · simp [unnamed]
  · rw [Dictionary.get?_insert, named, Option.some.injEq]
    by_cases same : id = name
    · subst same
      simp [fresh]
    · simp [same, Ne.symm same]

/-- Entering claims one by one adds their ids with their positions, and nothing else. -/
theorem get?_of_foldlM_enter {entries : List (Claim × Nat)}
    (h : entries.foldlM enter index = .ok next) :
    next.get? id = some position ↔ index.get? id = some position ∨
      ∃ claim, (claim, position) ∈ entries ∧ claim.id = some id := by
  induction entries generalizing index with
  | nil =>
    obtain rfl : index = next := Except.ok.inj h
    simp
  | cons entry entries ih =>
    rw [List.foldlM_cons, Except.bind_eq_ok_iff] at h
    obtain ⟨between, entered, rest⟩ := h
    rw [ih rest, get?_of_enter entered, or_assoc]
    refine or_congr_right ?_
    constructor
    · rintro (⟨named, rfl⟩ | ⟨claim, mem, named⟩)
      · exact ⟨entry.1, List.mem_cons_self, named⟩
      · exact ⟨claim, List.mem_cons_of_mem _ mem, named⟩
    · intro ⟨claim, mem, named⟩
      rcases List.mem_cons.1 mem with rfl | mem
      · exact .inl ⟨named, rfl⟩
      · exact .inr ⟨claim, mem, named⟩

/-- The id that fails is the first one that repeats. -/
theorem foldlM_enter_eq_error_iff {entries : List (Claim × Nat)} {seen : List String}
    (known : ∀ name, name ∈ seen ↔ index.get? name ≠ none) :
    entries.foldlM enter index = .error id ↔
      firstRepeatFrom seen (claimIds (entries.map Prod.fst)) = some id := by
  induction entries generalizing index seen with
  | nil => simp [claimIds, firstRepeatFrom, pure, Except.pure]
  | cons entry entries ih =>
    rw [List.foldlM_cons, Except.bind_eq_error_iff, enter_eq_error_iff]
    simp only [enter_eq_ok_iff]
    unfold claimIds at ih ⊢
    cases named : entry.1.id with
    | none => simp [named, ih known]
    | some name =>
      rw [List.map_cons, List.filterMap_cons_some named, firstRepeatFrom]
      by_cases repeated : name ∈ seen
      · have entered := (known name).1 repeated
        simp only [repeated, if_true, Option.some.injEq, reduceCtorEq, false_and, false_or]
        constructor
        · rintro (⟨same, -⟩ | ⟨_, ⟨other, rfl, fresh, -⟩, -⟩)
          · exact same
          · exact absurd fresh entered
        · rintro rfl
          exact .inl ⟨rfl, entered⟩
      · have fresh : index.get? name = none := by
          by_contra entered
          exact repeated ((known name).2 entered)
        have known : ∀ other, other ∈ name :: seen ↔
            (index.insert name entry.2).get? other ≠ none := by
          intro other
          rw [List.mem_cons, Dictionary.get?_insert, known other]
          by_cases same : other = name <;> simp [same]
        simp only [repeated, if_false, Option.some.injEq, reduceCtorEq, false_and, false_or,
          ← ih known]
        constructor
        · rintro (⟨rfl, entered⟩ | ⟨_, ⟨other, rfl, -, rfl⟩, failed⟩)
          · exact absurd fresh entered
          · exact failed
        · intro failed
          exact .inr ⟨_, ⟨name, rfl, fresh, rfl⟩, failed⟩

theorem get?_eq_some_iff (h : ofClaims claims = .ok index) :
    index.get? id = some position ↔
      ∃ claim, claims[position]? = some claim ∧ claim.id = some id := by
  rw [get?_of_foldlM_enter h, Dictionary.get?_empty]
  simp only [reduceCtorEq, false_or, List.mk_mem_zipIdx_iff_getElem?]

theorem ofClaims_eq_error_iff :
    ofClaims claims = .error id ↔ firstRepeat (claimIds claims) = some id := by
  have known : ∀ name, name ∈ [] ↔ (∅ : ClaimIndex).get? name ≠ none := by
    intro name
    simp [Dictionary.get?_empty]
  unfold ofClaims firstRepeat
  rw [foldlM_enter_eq_error_iff known, List.zipIdx_map_fst]

theorem exists_ofClaims_iff :
    (∃ index, ofClaims claims = .ok index) ↔ (claimIds claims).Nodup := by
  rw [← firstRepeat_eq_none_iff]
  cases made : ofClaims claims with
  | ok index =>
    have no_error : ∀ id, firstRepeat (claimIds claims) ≠ some id := by
      intro id repeated
      rw [ofClaims_eq_error_iff.2 repeated] at made
      contradiction
    simpa using Option.eq_none_iff_forall_ne_some.2 no_error
  | error id => simp [ofClaims_eq_error_iff.1 made]

end ClaimIndex

namespace CredentialQuery
variable {query : CredentialQuery} {id : String} {claim : Claim}

theorem distinct (query : CredentialQuery) : (claimIds query.claims.toList).Nodup :=
  ClaimIndex.exists_ofClaims_iff.1 ⟨query.index, query.indexed⟩

/-- The index never leads beyond the last claim. -/
theorem position_lt {position : Nat} (h : query.index.get? id = some position) :
    position < query.claims.length := by
  obtain ⟨claim, found, -⟩ := (ClaimIndex.get?_eq_some_iff query.indexed).1 h
  exact (List.getElem?_eq_some_iff.1 found).1

theorem claim?_eq_some_iff :
    query.claim? id = some claim ↔ claim ∈ query.claims.toList ∧ claim.id = some id := by
  simp only [claim?, Option.bind_eq_bind, Option.bind_eq_some_iff,
    ClaimIndex.get?_eq_some_iff query.indexed]
  constructor
  · intro ⟨position, ⟨other, stands, named⟩, found⟩
    obtain rfl := Option.some.inj (stands.symm.trans found)
    exact ⟨List.mem_of_getElem? found, named⟩
  · intro ⟨mem, named⟩
    obtain ⟨position, found⟩ := List.mem_iff_getElem?.1 mem
    exact ⟨position, ⟨claim, found, named⟩, found⟩

theorem claim?_eq_none_iff :
    query.claim? id = none ↔ ∀ claim ∈ query.claims.toList, claim.id ≠ some id := by
  simp only [Option.eq_none_iff_forall_ne_some, ne_eq, claim?_eq_some_iff, not_and]

end CredentialQuery
end WalletQuery
