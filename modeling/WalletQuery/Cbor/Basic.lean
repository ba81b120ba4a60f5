import WalletQuery.Number

/-! CBOR data items. -/
namespace WalletQuery

/-- The integers of the two integer types of CBOR. -/
abbrev CborInt := Ranged (-0x10000000000000000) 0xffffffffffffffff

inductive Cbor where
  | null
  | bool (value : Bool)
  | int (value : CborInt)
  | float (value : Binary64)
  | text (content : String)
  | bytes (content : List UInt8)
  | arr (items : List Cbor)
  | tag (number : UInt64) (item : Cbor)
  | map (entries : List (Cbor × Cbor))
  deriving Inhabited

namespace Cbor

/-- What holds of an item if it holds of all that the item is made of holds of every item. -/
@[induction_eliminator]
theorem induct {motive : Cbor → Prop} (null : motive .null) (bool : ∀ value, motive (.bool value))
    (int : ∀ value, motive (.int value)) (float : ∀ value, motive (.float value))
    (text : ∀ content, motive (.text content)) (bytes : ∀ content, motive (.bytes content))
    (arr : ∀ items, (∀ item ∈ items, motive item) → motive (.arr items))
    (tag : ∀ number item, motive item → motive (.tag number item))
    (map : ∀ entries, (∀ entry ∈ entries, motive entry.1 ∧ motive entry.2) → motive (.map entries))
    (item : Cbor) : motive item :=
  @Cbor.rec motive (fun items => ∀ item ∈ items, motive item)
    (fun entries => ∀ entry ∈ entries, motive entry.1 ∧ motive entry.2)
    (fun entry => motive entry.1 ∧ motive entry.2) null bool int float text bytes arr tag map
    nofun (fun _ _ head tail => List.forall_mem_cons.2 ⟨head, tail⟩)
    nofun (fun _ _ head tail => List.forall_mem_cons.2 ⟨head, tail⟩)
    (fun _ _ key value => ⟨key, value⟩) item

mutual

/-- Equality of items of one kind; a NaN makes any item that holds it differ from itself. -/
def beq : Cbor → Cbor → Bool
  | .null, .null => true
  | .bool a, .bool b => a == b
  | .int a, .int b => a == b
  | .float a, .float b => a == b
  | .text a, .text b => a == b
  | .bytes a, .bytes b => a == b
  | .arr a, .arr b => beqItems a b
  | .tag m a, .tag n b => m == n && beq a b
  | .map a, .map b => beqEntries a b
  | _, _ => false

def beqItems : List Cbor → List Cbor → Bool
  | [], [] => true
  | a :: as, b :: bs => beq a b && beqItems as bs
  | _, _ => false

def beqEntries : List (Cbor × Cbor) → List (Cbor × Cbor) → Bool
  | [], [] => true
  | (k, a) :: as, (l, b) :: bs => beq k l && beq a b && beqEntries as bs
  | _, _ => false

end

instance : BEq Cbor := ⟨beq⟩

end Cbor
end WalletQuery
