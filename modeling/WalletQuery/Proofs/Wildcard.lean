import WalletQuery.Proofs.Matching
import WalletQuery.Proofs.PathComposition

/-! A wildcard as all the indexes of an array. Every wildcard of a path makes the results one array
deeper, so that no value but an array is accepted for it. -/
namespace WalletQuery

theorem exists_word {i n : Nat} (inside : i < n) (fits : n ≤ UInt64.size) :
    ∃ word : UInt64, word.toNat = i :=
  ⟨.ofNat i, UInt64.toNat_ofNat_of_lt' (by omega)⟩

namespace Json

/-- An array of arrays and so on, down to the depth. -/
def IsNested : Nat → Json → Prop
  | 0, _ => True
  | depth + 1, .arr items => ∀ item ∈ items, IsNested depth item
  | _ + 1, _ => False

theorem isNested_of_select {path : List PathStep} {value result : Json}
    (h : value.select path = .ok result) : result.IsNested (path.count .wildcard) := by
  induction path generalizing value result with
  | nil => trivial
  | cons step rest ih =>
    by_cases fans : step = .wildcard
    · subst fans
      obtain ⟨items, results, -, rfl, each⟩ := select_wildcard_eq_ok_iff.1 h
      rw [List.count_cons_self]
      intro inner mem
      obtain ⟨item, -, selected⟩ := exists_of_mem_right each mem
      exact ih selected
    · rw [select_cons_of_ne_wildcard fans] at h
      obtain ⟨inner, -, selected⟩ := Except.bind_eq_ok_iff.1 h
      rw [List.count_cons_of_ne fans]
      exact ih selected

theorem select_wildcard_of_ne_arr {value : Json} (other : ∀ items, value ≠ .arr items)
    (rest : List PathStep) : value.select (.wildcard :: rest) = .error .wildcardOnNonArray := by
  cases value with
  | arr items => exact absurd rfl (other items)
  | _ => rfl

theorem select_index {items : List Json} {i : UInt64} (inside : i.toNat < items.length)
    (rest : List PathStep) :
    (arr items).select (.index i :: rest) = items[i.toNat].select rest := by
  simp only [select, List.getElem?_eq_getElem inside]

/-- As every position is a word, the indexes reach all items. -/
theorem select_wildcard_eq_ok_iff_index {items : List Json} (fits : items.length ≤ UInt64.size)
    {rest : List PathStep} {results : List Json} :
    (arr items).select (.wildcard :: rest) = .ok (arr results) ↔
      results.length = items.length ∧ ∀ (i : UInt64) (inside : i.toNat < results.length),
        (arr items).select (.index i :: rest) = .ok results[i.toNat] := by
  have each : (arr items).select (.wildcard :: rest) = .ok (arr results) ↔
      List.Forall₂ (fun item inner => item.select rest = .ok inner) items results := by
    simp [select_wildcard_eq_ok_iff]
  rw [each, List.forall₂_iff_get]
  constructor
  · intro h
    obtain ⟨len, each⟩ := h
    refine ⟨len.symm, fun i inside => ?_⟩
    rw [select_index (len ▸ inside)]
    exact each i.toNat (len ▸ inside) inside
  · intro h
    obtain ⟨len, each⟩ := h
    refine ⟨len.symm, fun i inside inside' => ?_⟩
    obtain ⟨i, rfl⟩ := exists_word inside fits
    rw [List.get_eq_getElem, ← select_index inside]
    exact each i inside'

theorem select_wildcard_eq_error_iff_index {items : List Json} (fits : items.length ≤ UInt64.size)
    {rest : List PathStep} {error : PathError} :
    (arr items).select (.wildcard :: rest) = .error error ↔
      ∃ i : UInt64, i.toNat < items.length ∧ (arr items).select (.index i :: rest) = .error error ∧
        ∀ j < i, ∃ result, (arr items).select (.index j :: rest) = .ok result := by
  have first : (arr items).select (.wildcard :: rest) = .error error ↔
      items.mapM (select rest) = .error error := Except.map_eq_error_iff
  rw [first, mapM_eq_error_iff]
  simp only [isFirst_iff_getElem]
  constructor
  · rintro ⟨_, ⟨i, inside, rfl, -, earlier⟩, fails⟩
    obtain ⟨i, rfl⟩ := exists_word inside fits
    refine ⟨i, inside, ?_, fun j before => ?_⟩
    · rw [select_index inside, fails]
    · have before := UInt64.lt_iff_toNat_lt.1 before
      rw [select_index (Nat.lt_trans before inside)]
      cases selected : items[j.toNat].select rest with
      | ok result => exact ⟨result, rfl⟩
      | error other => exact absurd ⟨other, selected⟩ (earlier j.toNat before)
  · intro h
    obtain ⟨i, inside, fails, earlier⟩ := h
    rw [select_index inside] at fails
    refine ⟨_, ⟨i.toNat, inside, rfl, ⟨error, fails⟩, fun j before => ?_⟩, fails⟩
    obtain ⟨j, rfl⟩ := exists_word (Nat.lt_trans before inside) fits
    obtain ⟨result, selected⟩ := earlier j (UInt64.lt_iff_toNat_lt.2 before)
    rw [select_index (Nat.lt_trans before inside)] at selected
    rintro ⟨other, fails⟩
    rw [selected] at fails
    contradiction

theorem eq_arr_of_beq {value : Json} {items : List Json} (same : (value == .arr items) = true) :
    ∃ others, value = .arr others := by
  cases value with
  | arr others => exact ⟨others, rfl⟩
  | _ => contradiction

end Json

namespace SdJwtClaims

/-- An array that the path leads to has no more elements than there are words of 64 bits, as the
memory of a machine has no room for more. -/
def Addressable (claims : SdJwtClaims) (path : List PathStep) : Prop :=
  ∀ items, claims.resolve path = .ok (.arr items) → items.length ≤ UInt64.size

/-- The outcomes of a path with a wildcard between `front` and `rest`, told by the paths that have
an index in its place. -/
inductive Projection (claims : SdJwtClaims) (front rest : List PathStep) :
    Except PathError Json → Prop
  | unresolved {error : PathError} : claims.resolve front = .error error →
      Projection claims front rest (.error error)
  | notArray {value : Json} : claims.resolve front = .ok value → (∀ items, value ≠ .arr items) →
      Projection claims front rest (.error .wildcardOnNonArray)
  | collected {items results : List Json} : claims.resolve front = .ok (.arr items) →
      results.length = items.length →
      (∀ (i : UInt64) (inside : i.toNat < results.length),
        claims.resolve (front ++ .index i :: rest) = .ok results[i.toNat]) →
      Projection claims front rest (.ok (.arr results))
  | failed {items : List Json} {i : UInt64} {error : PathError} :
      claims.resolve front = .ok (.arr items) → i.toNat < items.length →
      claims.resolve (front ++ .index i :: rest) = .error error →
      (∀ j < i, ∃ result, claims.resolve (front ++ .index j :: rest) = .ok result) →
      Projection claims front rest (.error error)

section
variable {claims : SdJwtClaims} {root : String} {front rest : List PathStep}
  (single : .wildcard ∉ front)
include single

theorem resolve_step_of_ok {value : Json} (found : claims.resolve (.key root :: front) = .ok value)
    (step : PathStep) :
    claims.resolve (.key root :: front ++ step :: rest) = value.select (step :: rest) := by
  rw [claims.resolve_append_of_not_mem root single, found]
  rfl

theorem projection_resolve (fits : claims.Addressable (.key root :: front)) :
    claims.Projection (.key root :: front) rest
      (claims.resolve (.key root :: front ++ .wildcard :: rest)) := by
  cases found : claims.resolve (.key root :: front) with
  | error error =>
    rw [claims.resolve_append_of_not_mem root single, found]
    exact .unresolved found
  | ok value =>
    rw [resolve_step_of_ok single found]
    by_cases array : ∃ items, value = .arr items
    · obtain ⟨items, rfl⟩ := array
      cases selected : (Json.arr items).select (.wildcard :: rest) with
      | ok result =>
        obtain ⟨_, results, -, rfl, -⟩ := Json.select_wildcard_eq_ok_iff.1 selected
        obtain ⟨len, each⟩ := (Json.select_wildcard_eq_ok_iff_index (fits _ found)).1 selected
        refine .collected found len fun i inside => ?_
        rw [resolve_step_of_ok single found, each i inside]
      | error error =>
        obtain ⟨i, inside, fails, earlier⟩ :=
          (Json.select_wildcard_eq_error_iff_index (fits _ found)).1 selected
        refine .failed found inside ?_ fun j before => ?_
        · rw [resolve_step_of_ok single found, fails]
        · rw [resolve_step_of_ok single found]
          exact earlier j before
    · have other (items : List Json) : value ≠ .arr items := fun same => array ⟨items, same⟩
      rw [Json.select_wildcard_of_ne_arr other]
      exact .notArray found other

theorem resolve_eq_of_projection (fits : claims.Addressable (.key root :: front))
    {outcome : Except PathError Json}
    (projected : claims.Projection (.key root :: front) rest outcome) :
    claims.resolve (.key root :: front ++ .wildcard :: rest) = outcome := by
  cases projected with
  | unresolved failed =>
    rw [claims.resolve_append_of_not_mem root single, failed]
    rfl
  | notArray found other =>
    rw [resolve_step_of_ok single found, Json.select_wildcard_of_ne_arr other]
  | collected found len each =>
    simp only [resolve_step_of_ok single found] at each ⊢
    exact (Json.select_wildcard_eq_ok_iff_index (fits _ found)).2 ⟨len, each⟩
  | failed found inside fails earlier =>
    simp only [resolve_step_of_ok single found] at fails earlier ⊢
    exact (Json.select_wildcard_eq_error_iff_index (fits _ found)).2 ⟨_, inside, fails, earlier⟩

end

theorem isNested_of_resolve {claims : SdJwtClaims} {path : List PathStep} {result : Json}
    (h : claims.resolve path = .ok result) : result.IsNested (path.count .wildcard) := by
  cases path with
  | nil => contradiction
  | cons step rest =>
    cases step with
    | key root =>
      rw [resolve_key] at h
      exact Json.isNested_of_select h
    | _ => contradiction

theorem exists_arr_of_resolve {claims : SdJwtClaims} {path : List PathStep} {result : Json}
    (fans : .wildcard ∈ path) (h : claims.resolve path = .ok result) :
    ∃ items, result = .arr items := by
  have nested := isNested_of_resolve h
  obtain ⟨depth, deep⟩ := Nat.exists_eq_add_one.2 (List.count_pos_iff.2 fans)
  rw [deep] at nested
  cases result with
  | arr items => exact ⟨items, rfl⟩
  | _ => contradiction

end SdJwtClaims

theorem MdocClaims.resolve_eq_error_of_wildcard {claims : MdocClaims} {path : ClaimPath}
    (fans : .wildcard ∈ path.toList) : claims.resolve path = .error .notMdocPath := by
  have other : path.namespaceAndElement = none := by
    rw [Option.eq_none_iff_forall_ne_some]
    rintro ⟨nameSpace, element⟩ addressed
    rw [ClaimPath.namespaceAndElement_eq_some_iff.1 addressed] at fans
    simp at fans
  simp only [resolve, other]

/-- An mdoc has no value at all for a path with a wildcard, an SD-JWT credential only arrays. -/
theorem Credential.disclose?_eq_none_of_wildcard {credential : Credential} {claim : Claim}
    {accepted : NonEmptyList Json} (fans : .wildcard ∈ claim.path.toList)
    (values : claim.values = some accepted)
    (others : ∀ value ∈ accepted.toList, ∀ items, value ≠ .arr items) :
    credential.disclose? claim = none := by
  rw [Option.eq_none_iff_forall_ne_some]
  intro disclosure disclosed
  obtain ⟨rfl, resolved, accepts⟩ := disclose?_eq_some_iff.1 disclosed
  unfold resolve at resolved
  split at resolved
  · rw [MdocClaims.resolve_eq_error_of_wildcard fans] at resolved
    contradiction
  · obtain ⟨value, found, same⟩ := Except.map_eq_ok_iff.1 resolved
    obtain ⟨items, rfl⟩ := SdJwtClaims.exists_arr_of_resolve fans found
    rw [values, ← same] at accepts
    obtain ⟨value, mem, same⟩ := List.any_eq_true.1 accepts
    obtain ⟨items, array⟩ := Json.eq_arr_of_beq same
    exact others value mem items array

/-- A wildcard stands for every index of the array that it is applied to, and of the indexes that
fail the least decides the error. A result is as many arrays deep as the path has wildcards, and
so it is not accepted among values that are no arrays. -/
theorem wildcard_projects_every_index :
    (∀ (claims : SdJwtClaims) (root : String) (front rest : List PathStep), .wildcard ∉ front →
      claims.Addressable (.key root :: front) → ∀ outcome,
        claims.resolve (.key root :: front ++ .wildcard :: rest) = outcome ↔
          claims.Projection (.key root :: front) rest outcome) ∧
    (∀ (claims : SdJwtClaims) (path : List PathStep) (result : Json),
      claims.resolve path = .ok result → result.IsNested (path.count .wildcard)) ∧
    ∀ (credential : Credential) (claim : Claim) (accepted : NonEmptyList Json),
      .wildcard ∈ claim.path.toList → claim.values = some accepted →
      (∀ value ∈ accepted.toList, ∀ items, value ≠ .arr items) →
        credential.disclose? claim = none := by
  refine ⟨fun claims root front rest single fits outcome => ⟨?_, ?_⟩, ?_, ?_⟩
  · rintro rfl
    exact SdJwtClaims.projection_resolve single fits
  · exact SdJwtClaims.resolve_eq_of_projection single fits
  · intro claims path result resolved
    exact SdJwtClaims.isNested_of_resolve resolved
  · intro credential claim accepted fans values others
    exact Credential.disclose?_eq_none_of_wildcard fans values others

/-- The grades of two terms, the second without any. -/
def SdJwtClaims.transcript : SdJwtClaims where
  vct := "transcript"
  members := .ofList [("grades", .arr [.arr [.str "A", .str "B"], .arr []])]

def Claim.grades : Claim where
  path := ⟨⟨.key "grades", [.wildcard, .wildcard]⟩⟩
  values := some (.singleton (.str "A"))

/-- The second term has no first grade, but no more is asked of it by a second wildcard. -/
theorem resolve_transcript :
    let claims := SdJwtClaims.transcript
    let all := Json.arr [.arr [.str "A", .str "B"], .arr []]
    .wildcard ∉ ([] : List PathStep) ∧ claims.Addressable [.key "grades"] ∧
      claims.Projection [.key "grades"] [.index 0] (.error (.indexOutOfBounds 0)) ∧
      claims.Projection [.key "grades"] [.wildcard] (.ok all) ∧ all.IsNested 2 ∧
      Credential.disclose? { id := "transcript", claims := .sdJwt claims } .grades = none := by
  intro claims all
  obtain ⟨projects, nested, rejects⟩ := wildcard_projects_every_index
  have single : PathStep.wildcard ∉ [] := List.not_mem_nil
  have fits : claims.Addressable [.key "grades"] := by
    intro items found
    obtain rfl := Json.arr.inj (Except.ok.inj found)
    decide
  have resolved : claims.resolve [.key "grades", .wildcard, .wildcard] = .ok all := rfl
  exact ⟨single, fits, (projects claims "grades" [] _ single fits _).1 rfl,
    (projects claims "grades" [] _ single fits _).1 resolved, nested claims _ all resolved,
    rejects _ .grades _ (by decide) rfl (by simp)⟩

end WalletQuery
