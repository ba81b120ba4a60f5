import WalletQuery.Proofs.Location

/-! A path followed in two stages. Up to the first wildcard the second stage starts from one value;
every wildcard of the first stage makes it start from all the values one array deeper. -/
namespace WalletQuery
namespace Json

/-- The values are the same nested arrays, but what stands in them at the depth has changed. -/
def ChangedAt (change : Json → Json → Prop) : Nat → Json → Json → Prop
  | 0, old, new => change old new
  | depth + 1, .arr items, .arr results => List.Forall₂ (ChangedAt change depth) items results
  | _ + 1, _, _ => False

theorem changedAt_succ_iff {change : Json → Json → Prop} {depth : Nat} {old new : Json} :
    old.ChangedAt change (depth + 1) new ↔ ∃ items results, old = .arr items ∧ new = .arr results ∧
      List.Forall₂ (ChangedAt change depth) items results := by
  constructor
  · intro h
    cases old <;> cases new <;> try contradiction
    exact ⟨_, _, rfl, rfl, h⟩
  · rintro ⟨items, results, rfl, rfl, h⟩
    exact h

/-- A step that is not a wildcard leads to one value, from which the path goes on. -/
theorem select_cons_of_ne_wildcard {step : PathStep} (single : step ≠ .wildcard)
    (rest : List PathStep) (value : Json) :
    value.select (step :: rest) = value.select [step] >>= select rest := by
  cases step with
  | key name =>
    cases value with
    | obj members =>
      simp only [select]
      cases members.lookup name <;> rfl
    | _ => rfl
  | index position =>
    cases value with
    | arr items =>
      simp only [select]
      cases items[position.toNat]? <;> rfl
    | _ => rfl
  | wildcard => contradiction

theorem select_wildcard_eq_ok_iff {rest : List PathStep} {value result : Json} :
    value.select (.wildcard :: rest) = .ok result ↔ ∃ items results, value = .arr items ∧
      result = .arr results ∧
        List.Forall₂ (fun item inner => item.select rest = .ok inner) items results := by
  constructor
  · intro h
    cases value with
    | arr items =>
      obtain ⟨results, collected, same⟩ := Except.map_eq_ok_iff.1 h
      exact ⟨items, results, rfl, same.symm, mapM_eq_ok_iff.1 collected⟩
    | _ => contradiction
  · rintro ⟨items, results, rfl, rfl, each⟩
    exact Except.map_eq_ok_iff.2 ⟨results, mapM_eq_ok_iff.2 each, rfl⟩

/-- Without wildcards the stages follow each other, and the error is that of the stage that
fails. -/
theorem select_append_of_not_mem {front : List PathStep} (single : .wildcard ∉ front)
    (rest : List PathStep) (value : Json) :
    value.select (front ++ rest) = value.select front >>= select rest := by
  induction front generalizing value with
  | nil => rfl
  | cons step front ih =>
    obtain ⟨ne, single⟩ := not_or.1 (mt List.mem_cons.2 single)
    rw [List.cons_append, select_cons_of_ne_wildcard (Ne.symm ne),
      select_cons_of_ne_wildcard (Ne.symm ne) front, bind_assoc]
    exact bind_congr (ih single)

/-- With wildcards the second stage starts from every value at their depth, and it has to succeed
from all of them. -/
theorem select_append_eq_ok_iff {front rest : List PathStep} {value result : Json} :
    value.select (front ++ rest) = .ok result ↔
      ∃ staged, value.select front = .ok staged ∧
        staged.ChangedAt (fun old new => old.select rest = .ok new) (front.count .wildcard)
          result := by
  induction front generalizing value result with
  | nil => simp [select, ChangedAt]
  | cons step front ih =>
    by_cases fans : step = .wildcard
    · subst fans
      -- the items go through the first stage, and what comes of them through the second
      have each (items results : List Json) :
          List.Forall₂ (fun item inner => item.select (front ++ rest) = .ok inner) items results ↔
            ∃ staged, List.Forall₂ (fun item inner => item.select front = .ok inner) items staged ∧
              List.Forall₂ (ChangedAt (fun old new => old.select rest = .ok new)
                (front.count .wildcard)) staged results := by
        simp only [ih, forall₂_comp_iff]
      simp only [List.cons_append, select_wildcard_eq_ok_iff, List.count_cons_self,
        changedAt_succ_iff, each]
      constructor
      · rintro ⟨items, results, rfl, rfl, staged, first, second⟩
        exact ⟨_, ⟨items, staged, rfl, rfl, first⟩, staged, results, rfl, rfl, second⟩
      · rintro ⟨_, ⟨items, staged, rfl, rfl, first⟩, _, results, same, rfl, second⟩
        cases same
        exact ⟨items, results, rfl, rfl, staged, first, second⟩
    · rw [List.cons_append, select_cons_of_ne_wildcard fans, select_cons_of_ne_wildcard fans front,
        List.count_cons_of_ne fans]
      simp only [Except.bind_eq_ok_iff, ih]
      constructor
      · rintro ⟨inner, first, staged, second, changed⟩
        exact ⟨staged, ⟨inner, first, second⟩, changed⟩
      · rintro ⟨staged, ⟨inner, first, second⟩, changed⟩
        exact ⟨inner, first, staged, second, changed⟩

end Json

namespace SdJwtClaims

theorem resolve_append_of_not_mem (claims : SdJwtClaims) (root : String) {front : List PathStep}
    (single : .wildcard ∉ front) (rest : List PathStep) :
    claims.resolve (.key root :: front ++ rest) =
      claims.resolve (.key root :: front) >>= Json.select rest := by
  have single : PathStep.wildcard ∉ PathStep.key root :: front := by simpa using single
  rw [List.cons_append, resolve_key, resolve_key, ← List.cons_append,
    Json.select_append_of_not_mem single]

/-- A path leads to a result just if its first part leads to some value, and the rest of it leads
from all that stands in this value, as many arrays deep as the first part has wildcards, to what
stands in the same places of the result. -/
theorem resolve_append_eq_ok_iff (claims : SdJwtClaims) (root : String)
    (front rest : List PathStep) (result : Json) :
    claims.resolve (.key root :: front ++ rest) = .ok result ↔
      ∃ staged, claims.resolve (.key root :: front) = .ok staged ∧
        staged.ChangedAt (fun old new => old.select rest = .ok new)
          ((PathStep.key root :: front).count .wildcard) result := by
  rw [List.cons_append, resolve_key, resolve_key, ← List.cons_append]
  exact Json.select_append_eq_ok_iff

/-- The second stage starts from each of the degrees that the wildcard of the first has selected. -/
example :
    let bachelor := Json.obj [("type", .str "BSc"), ("year", .null)]
    let master := Json.obj [("type", .str "MSc")]
    let claims : SdJwtClaims := ⟨"diploma", .ofList [("degrees", .arr [bachelor, master])]⟩
    let degrees := [.key "degrees", .wildcard]
    claims.resolve degrees = .ok (.arr [bachelor, master]) ∧
      bachelor.select [.key "type"] = .ok (.str "BSc") ∧
      master.select [.key "type"] = .ok (.str "MSc") ∧
      claims.resolve (degrees ++ [.key "type"]) = .ok (.arr [.str "BSc", .str "MSc"]) :=
  ⟨rfl, rfl, rfl, rfl⟩

end SdJwtClaims
end WalletQuery
