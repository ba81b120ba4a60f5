/-! Lists with at least one element. -/
namespace WalletQuery

structure NonEmptyList (α : Type) where
  head : α
  tail : List α
  deriving DecidableEq

namespace NonEmptyList
variable {α : Type}

def toList (xs : NonEmptyList α) : List α := xs.head :: xs.tail

def ofList? : List α → Option (NonEmptyList α)
  | [] => none
  | x :: xs => some ⟨x, xs⟩

def singleton (x : α) : NonEmptyList α := ⟨x, []⟩

def push (xs : NonEmptyList α) (x : α) : NonEmptyList α := ⟨xs.head, xs.tail ++ [x]⟩

def mapM {m : Type → Type} [Monad m] {β : Type} (f : α → m β) (xs : NonEmptyList α) :
    m (NonEmptyList β) := do
  let head ← f xs.head
  let tail ← xs.tail.mapM f
  return ⟨head, tail⟩

def length (xs : NonEmptyList α) : Nat := xs.toList.length

/-- What a caller is told who needs an element and has none. -/
def emptyMessage : String := "cannot create a NonEmptyVec from an empty Vec"

instance [BEq α] : BEq (NonEmptyList α) := ⟨fun xs ys => xs.toList == ys.toList⟩

@[simp] theorem toList_mk (x : α) (xs : List α) : (NonEmptyList.mk x xs).toList = x :: xs := rfl

@[simp] theorem toList_ne_nil (xs : NonEmptyList α) : xs.toList ≠ [] := by simp [toList]

@[simp] theorem toList_singleton (x : α) : (singleton x).toList = [x] := rfl

@[simp] theorem toList_push (xs : NonEmptyList α) (x : α) :
    (xs.push x).toList = xs.toList ++ [x] := by simp [push, toList]

theorem toList_mapM {m : Type → Type} [Monad m] [LawfulMonad m] {β : Type} (f : α → m β)
    (xs : NonEmptyList α) : toList <$> xs.mapM f = xs.toList.mapM f := by
  simp [mapM, toList, List.mapM_cons, Functor.map_map, map_bind]

@[simp] theorem ofList?_toList (xs : NonEmptyList α) : ofList? xs.toList = some xs := rfl

theorem toList_injective {xs ys : NonEmptyList α} (h : xs.toList = ys.toList) : xs = ys := by
  simpa using congrArg ofList? h

theorem beq_iff [BEq α] {xs ys : NonEmptyList α} :
    (xs == ys) = true ↔ (xs.toList == ys.toList) = true := Iff.rfl

instance [BEq α] [ReflBEq α] : ReflBEq (NonEmptyList α) := ⟨beq_iff.2 BEq.rfl⟩

instance [BEq α] [LawfulBEq α] : LawfulBEq (NonEmptyList α) :=
  ⟨fun h => toList_injective (eq_of_beq (beq_iff.1 h))⟩

@[simp] theorem ofList?_eq_none_iff {xs : List α} : ofList? xs = none ↔ xs = [] := by
  cases xs <;> simp [ofList?]

theorem ofList?_eq_some_iff {xs : List α} {ys : NonEmptyList α} :
    ofList? xs = some ys ↔ xs = ys.toList := by
  cases xs with
  | nil => simp [ofList?, toList]
  | cons x xs =>
    obtain ⟨y, ys⟩ := ys
    simp [ofList?]

end NonEmptyList
end WalletQuery
