import WalletQuery.Dictionary
import WalletQuery.Number

/-! JSON values. Integers and other numbers are two kinds that are never equal. -/
namespace WalletQuery

/-- The integers of signed or unsigned words of 64 bits. -/
abbrev JsonInt := Ranged (-0x8000000000000000) 0xffffffffffffffff

inductive Json where
  | null
  | bool (value : Bool)
  | int (value : JsonInt)
  | float (value : FiniteBinary64)
  | str (content : String)
  | arr (items : List Json)
  | obj (members : List (String × Json))
  deriving Inhabited

namespace Json

mutual

/-- Equality up to the sign of zeros. -/
def beq : Json → Json → Bool
  | .null, .null => true
  | .bool a, .bool b => a == b
  | .int a, .int b => a == b
  | .float a, .float b => a.val == b.val
  | .str a, .str b => a == b
  | .arr a, .arr b => beqItems a b
  | .obj a, .obj b => beqMembers a b
  | _, _ => false

def beqItems : List Json → List Json → Bool
  | [], [] => true
  | a :: as, b :: bs => beq a b && beqItems as bs
  | _, _ => false

def beqMembers : List (String × Json) → List (String × Json) → Bool
  | [], [] => true
  | (name, a) :: as, (key, b) :: bs => name == key && beq a b && beqMembers as bs
  | _, _ => false

end

instance : BEq Json := ⟨beq⟩

mutual

theorem beq_self : (value : Json) → beq value value = true
  | .null => rfl
  | .bool value => by simp [beq]
  | .int value => by simp [beq]
  | .float value => by simp [beq, Binary64.beq_self_of_isFinite value.property]
  | .str content => by simp [beq]
  | .arr items => by simp [beq, beqItems_self items]
  | .obj members => by simp [beq, beqMembers_self members]

theorem beqItems_self : (items : List Json) → beqItems items items = true
  | [] => rfl
  | item :: rest => by simp [beqItems, beq_self item, beqItems_self rest]

theorem beqMembers_self : (members : List (String × Json)) → beqMembers members members = true
  | [] => rfl
  | (name, value) :: rest => by simp [beqMembers, beq_self value, beqMembers_self rest]

end

instance : ReflBEq Json := ⟨beq_self _⟩

theorem beqItems_eq (as bs : List Json) : beqItems as bs = (as == bs) := by
  induction as generalizing bs with
  | nil => cases bs <;> rfl
  | cons a as ih => cases bs with
    | nil => rfl
    | cons b bs => exact congrArg (beq a b && ·) (ih bs)

mutual

/-- The members of each object are in ascending order of their names. -/
def Canonical : Json → Prop
  | .arr items => CanonicalItems items
  | .obj members => Entries.Ascending members ∧ CanonicalMembers members
  | _ => True

def CanonicalItems : List Json → Prop
  | [] => True
  | item :: rest => Canonical item ∧ CanonicalItems rest

def CanonicalMembers : List (String × Json) → Prop
  | [] => True
  | (_, value) :: rest => Canonical value ∧ CanonicalMembers rest

end

theorem canonicalItems_iff {items : List Json} :
    CanonicalItems items ↔ ∀ item ∈ items, item.Canonical := by
  induction items with
  | nil => simp [CanonicalItems]
  | cons item rest ih => simp [CanonicalItems, ih]

theorem canonicalMembers_iff {members : List (String × Json)} :
    CanonicalMembers members ↔ ∀ member ∈ members, member.2.Canonical := by
  induction members with
  | nil => simp [CanonicalMembers]
  | cons member rest ih => simp [CanonicalMembers, ih]

mutual

def decideCanonical : (value : Json) → Decidable value.Canonical
  | .null | .bool _ | .int _ | .float _ | .str _ => .isTrue trivial
  | .arr items => decideCanonicalItems items
  | .obj members =>
    have := decideCanonicalMembers members
    inferInstanceAs (Decidable (Entries.Ascending members ∧ CanonicalMembers members))

def decideCanonicalItems : (items : List Json) → Decidable (CanonicalItems items)
  | [] => .isTrue trivial
  | item :: rest =>
    have := decideCanonical item
    have := decideCanonicalItems rest
    inferInstanceAs (Decidable (item.Canonical ∧ CanonicalItems rest))

def decideCanonicalMembers :
    (members : List (String × Json)) → Decidable (CanonicalMembers members)
  | [] => .isTrue trivial
  | (_, value) :: rest =>
    have := decideCanonical value
    have := decideCanonicalMembers rest
    inferInstanceAs (Decidable (value.Canonical ∧ CanonicalMembers rest))

end

instance : DecidablePred Canonical := decideCanonical

/-- An object of those of the given members that have a value. -/
def ofMembers (members : List (String × Option Json)) : Json :=
  .obj (members.filterMap fun (name, value) => value.map (name, ·))

end Json
end WalletQuery
