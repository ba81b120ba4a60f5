import WalletQuery.Proofs.Traversal
import WalletQuery.Request.Build

/-! Computations that check rules in a fixed order, and report the first one that is broken. -/
namespace WalletQuery
variable {α β : Type}

/-- A condition, and what is reported of a request that does not meet it. -/
structure Rule where
  Holds : Prop
  violation : Violation

/-- The first of the rules that does not hold has the violation. -/
def FirstBroken (rules : List Rule) (violation : Violation) : Prop :=
  ∃ rule, IsFirst (fun rule => ¬rule.Holds) rules rule ∧ rule.violation = violation

theorem not_firstBroken_nil {violation : Violation} : ¬FirstBroken [] violation :=
  fun ⟨_, first, _⟩ => not_isFirst_nil first

theorem firstBroken_cons_iff {rule : Rule} {rules : List Rule} {violation : Violation} :
    FirstBroken (rule :: rules) violation ↔
      ¬rule.Holds ∧ rule.violation = violation ∨ rule.Holds ∧ FirstBroken rules violation := by
  unfold FirstBroken
  simp only [isFirst_cons_iff, not_not]
  constructor
  · rintro ⟨_, ⟨broken, rfl⟩ | ⟨holds, first⟩, same⟩
    · exact .inl ⟨broken, same⟩
    · exact .inr ⟨holds, _, first, same⟩
  · rintro (⟨broken, same⟩ | ⟨holds, other, first, same⟩)
    · exact ⟨rule, .inl ⟨broken, rfl⟩, same⟩
    · exact ⟨other, .inr ⟨holds, first⟩, same⟩

theorem firstBroken_append_iff {rules others : List Rule} {violation : Violation} :
    FirstBroken (rules ++ others) violation ↔
      FirstBroken rules violation ∨
        (∀ rule ∈ rules, rule.Holds) ∧ FirstBroken others violation := by
  induction rules with
  | nil => simp [not_firstBroken_nil]
  | cons rule rules ih =>
    simp only [List.cons_append, firstBroken_cons_iff, ih, List.forall_mem_cons]
    tauto

theorem exists_firstBroken_iff {rules : List Rule} :
    (∃ violation, FirstBroken rules violation) ↔ ∃ rule ∈ rules, ¬rule.Holds := by
  induction rules with
  | nil => simp [not_firstBroken_nil]
  | cons rule rules ih =>
    simp only [firstBroken_cons_iff, exists_or, exists_and_left, exists_eq', and_true, ih,
      List.exists_mem_cons_iff]
    tauto

/-- The computation fails exactly if one of the rules is broken, with the violation of the first. -/
def Enforces (x : Except Violation α) (rules : List Rule) : Prop :=
  ∀ violation, x = .error violation ↔ FirstBroken rules violation

namespace Enforces

theorem exists_ok_iff {x : Except Violation α} {rules : List Rule} (h : Enforces x rules) :
    (∃ a, x = .ok a) ↔ ∀ rule ∈ rules, rule.Holds := by
  have failing : (∃ violation, x = .error violation) ↔ ∃ rule ∈ rules, ¬rule.Holds := by
    simp only [h _, exists_firstBroken_iff]
  cases x with
  | ok a =>
    simp only [reduceCtorEq, exists_false, false_iff, not_exists, not_and, not_not] at failing
    simpa using failing
  | error violation =>
    simp only [Except.error.injEq, exists_eq', true_iff] at failing
    simpa using failing

theorem ok (a : α) : Enforces (.ok a) [] := by
  intro violation
  simp [not_firstBroken_nil]

/-- If the first rule is broken, the others are not looked at. -/
theorem unmet {condition : Prop} (broken : ¬condition) (violation : Violation)
    (rules : List Rule) :
    Enforces (.error violation : Except Violation α) (⟨condition, violation⟩ :: rules) := by
  intro other
  simp [firstBroken_cons_iff, broken]

theorem cons {rule : Rule} (holds : rule.Holds) {x : Except Violation α} {rules : List Rule}
    (h : Enforces x rules) : Enforces x (rule :: rules) := by
  intro violation
  simp [firstBroken_cons_iff, holds, h violation]

theorem met {condition : Prop} (holds : condition) (violation : Violation) (a : α) :
    Enforces (.ok a) [⟨condition, violation⟩] :=
  cons holds (ok a)

theorem bind {x : Except Violation α} {f : α → Except Violation β} {rules others : List Rule}
    (hx : Enforces x rules) (hf : ∀ a, x = .ok a → Enforces (f a) others) :
    Enforces (x >>= f) (rules ++ others) := by
  intro violation
  rw [Except.bind_eq_error_iff, firstBroken_append_iff, hx violation, ← hx.exists_ok_iff]
  refine or_congr_right ?_
  constructor
  · intro h
    obtain ⟨a, ha, failed⟩ := h
    exact ⟨⟨a, ha⟩, (hf a ha violation).1 failed⟩
  · intro h
    obtain ⟨⟨a, ha⟩, first⟩ := h
    exact ⟨a, ha, (hf a ha violation).2 first⟩

theorem map_iff {x : Except Violation α} {f : α → β} {rules : List Rule} :
    Enforces (f <$> x) rules ↔ Enforces x rules := by
  simp only [Enforces, Except.map_eq_error_iff]

/-- A traversal enforces the rules for each element in turn. -/
theorem mapM {f : α → Except Violation β} {rules : α → List Rule} {xs : List α}
    (h : ∀ x ∈ xs, Enforces (f x) (rules x)) : Enforces (xs.mapM f) (xs.flatMap rules) := by
  induction xs with
  | nil => exact ok []
  | cons x xs ih =>
    obtain ⟨head, tail⟩ := List.forall_mem_cons.1 h
    rw [List.mapM_cons, List.flatMap_cons]
    exact head.bind fun y _ => (map_iff (f := (y :: ·))).2 (ih tail)

theorem mapM_nonEmptyList {f : α → Except Violation β} {rules : α → List Rule}
    {xs : NonEmptyList α} (h : ∀ x ∈ xs.toList, Enforces (f x) (rules x)) :
    Enforces (xs.mapM f) (xs.toList.flatMap rules) := by
  rw [← map_iff (f := NonEmptyList.toList), NonEmptyList.toList_mapM]
  exact mapM h

end Enforces

theorem enforces_nonEmpty (violation : Violation) (items : List α) :
    Enforces (nonEmpty violation items) [⟨items ≠ [], violation⟩] := by
  cases items with
  | nil => exact .unmet (fun ne => ne rfl) violation []
  | cons x xs => exact .met (List.cons_ne_nil x xs) violation _

theorem enforces_mapM_nonEmpty (violation : Violation) (lists : List (List α)) :
    Enforces (lists.mapM (nonEmpty violation))
      (lists.map fun items => ⟨items ≠ [], violation⟩) := by
  rw [List.map_eq_flatMap]
  exact Enforces.mapM fun items _ => enforces_nonEmpty violation items

theorem enforces_mapM_nonEmpty_option (violation : Violation) (items : Option (List α)) :
    Enforces (items.mapM (nonEmpty violation)) [⟨items ≠ some [], violation⟩] := by
  cases items with
  | none => exact .met (Option.some_ne_none []).symm violation _
  | some items =>
    simp only [ne_eq, Option.some.injEq, Option.mapM_some, Enforces.map_iff]
    exact enforces_nonEmpty violation items

end WalletQuery
