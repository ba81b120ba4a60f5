import WalletQuery.Json.Basic
import WalletQuery.NonEmptyList
import WalletQuery.Query.CredentialQuery

/-! Queries by which a verifier asks a wallet for credentials, and the combinations of credentials
that serve its purposes. -/
namespace WalletQuery

section Repeats
variable {α : Type} [DecidableEq α]

/-- The first element of the list that is in `seen` or stands earlier in the list. -/
def firstRepeatFrom (seen : List α) : List α → Option α
  | [] => none
  | x :: xs => if x ∈ seen then some x else firstRepeatFrom (x :: seen) xs

def firstRepeat (xs : List α) : Option α := firstRepeatFrom [] xs

theorem firstRepeatFrom_eq_none_iff {seen xs : List α} :
    firstRepeatFrom seen xs = none ↔ xs.Nodup ∧ ∀ x ∈ xs, x ∉ seen := by
  induction xs generalizing seen with
  | nil => simp [firstRepeatFrom]
  | cons x xs ih =>
    by_cases h : x ∈ seen
    · simp [firstRepeatFrom, h]
    · simp only [firstRepeatFrom, h, if_false, ih, List.nodup_cons, List.mem_cons,
        not_or, forall_eq_or_imp, not_false_eq_true, true_and]
      constructor
      · rintro ⟨nodup, fresh⟩
        exact ⟨⟨fun mem => (fresh x mem).1 rfl, nodup⟩, fun y mem => (fresh y mem).2⟩
      · rintro ⟨⟨absent, nodup⟩, fresh⟩
        exact ⟨nodup, fun y mem => ⟨fun eq => absent (eq ▸ mem), fresh y mem⟩⟩

theorem firstRepeat_eq_none_iff {xs : List α} : firstRepeat xs = none ↔ xs.Nodup := by
  simp [firstRepeat, firstRepeatFrom_eq_none_iff]

end Repeats

/-- Ids of credential queries that serve the purpose together. -/
abbrev SetOption := NonEmptyList String

structure CredentialSet where
  purpose : Json
  required : Bool := true
  /-- An earlier option is preferred. -/
  options : NonEmptyList SetOption

instance : BEq CredentialSet :=
  ⟨fun a b => a.purpose == b.purpose && a.required == b.required && a.options == b.options⟩

instance : ReflBEq CredentialSet where
  rfl {set} := by
    change (set.purpose == set.purpose && set.required == set.required &&
      set.options == set.options) = true
    simp only [BEq.rfl, Bool.and_self]

/-- Without credential sets every credential query has to be answered. -/
structure Query where
  credentials : NonEmptyList CredentialQuery
  sets : List CredentialSet
  distinct : (credentials.toList.map CredentialQuery.id).Nodup

namespace Query

def ofParts (credentials : NonEmptyList CredentialQuery) (sets : List CredentialSet) :
    Except Violation Query :=
  match repeated : firstRepeat (credentials.toList.map CredentialQuery.id) with
  | some id => .error (.repeatedQueryId id)
  | none => .ok { credentials, sets, distinct := firstRepeat_eq_none_iff.1 repeated }

def credentialQuery? (query : Query) (id : String) : Option CredentialQuery :=
  query.credentials.toList.find? (·.id == id)

instance : BEq Query := ⟨fun a b => a.credentials == b.credentials && a.sets == b.sets⟩

theorem beq_iff {a b : Query} :
    (a == b) = true ↔ (a.credentials == b.credentials) = true ∧ (a.sets == b.sets) = true := by
  change (a.credentials == b.credentials && a.sets == b.sets) = true ↔ _
  rw [Bool.and_eq_true]

instance : ReflBEq Query := ⟨beq_iff.2 ⟨BEq.rfl, BEq.rfl⟩⟩

end Query
end WalletQuery
