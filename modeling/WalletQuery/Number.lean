/-! The numbers of data formats: integers of a fixed range, and IEEE 754 binary64 numbers. -/
namespace WalletQuery

structure Ranged (first last : Int) where
  val : Int
  first_le : first ≤ val
  le_last : val ≤ last
  deriving DecidableEq

namespace Ranged
variable {first last : Int}

def ofInt? (first last n : Int) : Option (Ranged first last) :=
  if h : first ≤ n ∧ n ≤ last then some ⟨n, h.1, h.2⟩ else none

@[ext] theorem ext {a b : Ranged first last} (h : a.val = b.val) : a = b := by
  cases a; cases b; simp_all

@[simp] theorem ofInt?_val (a : Ranged first last) : ofInt? first last a.val = some a := by
  simp [ofInt?, a.first_le, a.le_last]

theorem ofInt?_eq_some_iff {n : Int} {a : Ranged first last} :
    ofInt? first last n = some a ↔ n = a.val := by
  constructor
  · intro h
    simp only [ofInt?] at h
    split at h
    · cases h
      rfl
    · contradiction
  · rintro rfl
    exact ofInt?_val a

theorem ofInt?_eq_none_iff {n : Int} : ofInt? first last n = none ↔ ¬(first ≤ n ∧ n ≤ last) := by
  simp [ofInt?]

end Ranged

/-- Equality `=` is that of the bits; `==` is the comparison of the standard. -/
structure Binary64 where
  bits : UInt64
  deriving DecidableEq

namespace Binary64

def isNegative (x : Binary64) : Bool := decide (0x8000000000000000 ≤ x.bits.toNat)

/-- The bits without the sign. -/
def magnitude (x : Binary64) : Nat := x.bits.toNat % 0x8000000000000000

def exponentField (x : Binary64) : Nat := x.magnitude / 0x10000000000000

def fractionField (x : Binary64) : Nat := x.magnitude % 0x10000000000000

def isZero (x : Binary64) : Bool := x.magnitude == 0

def isFinite (x : Binary64) : Bool := decide (x.exponentField < 2047)

def isNaN (x : Binary64) : Bool := !x.isFinite && x.fractionField != 0

/-- A NaN differs from all numbers, itself included, and the two zeros are equal. -/
instance : BEq Binary64 :=
  ⟨fun x y => !x.isNaN && !y.isNaN && (x.bits == y.bits || (x.isZero && y.isZero))⟩

theorem beq_self_of_isFinite {x : Binary64} (h : x.isFinite = true) : (x == x) = true := by
  simp [BEq.beq, isNaN, h]

end Binary64

/-- The numbers that are neither infinite nor NaN. -/
abbrev FiniteBinary64 := { x : Binary64 // x.isFinite = true }

end WalletQuery
