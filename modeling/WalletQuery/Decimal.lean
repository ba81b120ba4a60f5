import WalletQuery.Number

/-! The decimal of fewest digits that lies in the rounding interval of a binary number, of two with
as few digits the nearer one, of two as near the even one; and how its digits are laid out. -/
namespace WalletQuery

/-- The number `significand * 10 ^ exponent`. -/
structure Decimal where
  significand : Nat
  exponent : Int
  deriving DecidableEq

namespace Decimal

/-- A positive number `value / den` and the ends of the interval of reals that round to it. -/
structure Interval where
  low : Nat
  value : Nat
  high : Nat
  den : Nat
  /-- Whether the ends themselves round to the number. -/
  closed : Bool

/-- The interval of a number is half as wide below as above where the binary exponent changes. -/
def Interval.ofBinary64 (x : Binary64) : Interval :=
  let m := if x.exponentField = 0 then x.fractionField else 0x10000000000000 + x.fractionField
  let q : Int := (max x.exponentField 1 : Nat) - 1077
  let narrow := x.fractionField = 0 ∧ 1 < x.exponentField
  let scale := Nat.pow 2 q.toNat
  { low := (if narrow then 4 * m - 1 else 4 * m - 2) * scale
    value := 4 * m * scale
    high := (4 * m + 2) * scale
    den := Nat.pow 2 (-q).toNat
    closed := m % 2 = 0 }

def digitCount (n : Nat) : Nat := (Nat.toDigits 10 n).length

namespace Interval

/-- The exponent of the leading decimal digit of the number. -/
def leadingExponent (i : Interval) : Int :=
  if i.den ≤ i.value then digitCount (i.value / i.den) - 1
  else -digitCount ((i.den + i.value - 1) / i.value - 1)

/-- Whether the decimal rounds to the number. -/
def Contains (i : Interval) (d : Decimal) : Prop :=
  let n := d.significand * Nat.pow 10 d.exponent.toNat * i.den
  let unit := Nat.pow 10 (-d.exponent).toNat
  if i.closed then i.low * unit ≤ n ∧ n ≤ i.high * unit else i.low * unit < n ∧ n < i.high * unit

instance (i : Interval) (d : Decimal) : Decidable (i.Contains d) := by
  unfold Contains; infer_instance

/-- The multiple of `10 ^ exponent` that is next to the number from below. -/
def below (i : Interval) (exponent : Int) : Decimal :=
  ⟨i.value * Nat.pow 10 (-exponent).toNat / (i.den * Nat.pow 10 exponent.toNat), exponent⟩

def above (i : Interval) (exponent : Int) : Decimal :=
  ⟨(i.below exponent).significand + 1, exponent⟩

/-- The nearer of the two neighbours on the grid of `10 ^ exponent`; the even one if neither is. -/
def nearest (i : Interval) (exponent : Int) : Decimal :=
  let cell := i.den * Nat.pow 10 exponent.toNat
  let rest := i.value * Nat.pow 10 (-exponent).toNat % cell
  let low := i.below exponent
  if 2 * rest < cell ∨ (2 * rest = cell ∧ low.significand % 2 = 0) then low else i.above exponent

/-- The point of the grid of `10 ^ exponent` that rounds to the number, if there is one. -/
def onGrid? (i : Interval) (exponent : Int) : Option Decimal :=
  if i.Contains (i.below exponent) ∧ i.Contains (i.above exponent) then some (i.nearest exponent)
  else if i.Contains (i.below exponent) then some (i.below exponent)
  else if i.Contains (i.above exponent) then some (i.above exponent)
  else none

/-- The first grid with a point that rounds to the number gives the digits; seventeen digits
always suffice. -/
def shortest (i : Interval) : Decimal :=
  let exponents := (List.range 17).map fun (k : Nat) => i.leadingExponent - k
  (exponents.findSome? i.onGrid?).getD (i.nearest (i.leadingExponent - 16))

end Interval

/-- A number is written in positional notation if its leading digit stands for `10 ^ e` with
`first ≤ e < limit`. -/
structure Layout where
  first : Int
  limit : Int

/-- Five zeros at most stand before the digits, and sixteen digits at most before the point. -/
def Layout.standard : Layout := ⟨-5, 16⟩

/-- Positional text of the digits, the first of which stands for `10 ^ lead`; one fractional digit
at least. -/
def positional (digits : List Char) (lead : Int) : List Char :=
  if lead < 0 then '0' :: '.' :: List.replicate (-lead - 1).toNat '0' ++ digits
  else
    let whole := lead.toNat + 1
    let fraction := digits.drop whole
    digits.take whole ++ List.replicate (whole - digits.length) '0' ++
      '.' :: (if fraction.isEmpty then ['0'] else fraction)

/-- One digit, the others after a point, and the exponent with its sign. -/
def scientific (digits : List Char) (lead : Int) : List Char :=
  let fraction := digits.drop 1
  digits.take 1 ++ (if fraction.isEmpty then [] else '.' :: fraction) ++
    'e' :: (if lead < 0 then '-' else '+') :: Nat.toDigits 10 lead.natAbs

/-- Zeros at the end of the significand are not digits of the number. -/
def significantDigits (d : Decimal) : List Char :=
  ((Nat.toDigits 10 d.significand).reverse.dropWhile (· == '0')).reverse

def Layout.unsignedText (layout : Layout) (x : Binary64) : List Char :=
  if x.isZero then positional ['0'] 0
  else
    let d := (Interval.ofBinary64 x).shortest
    let lead := d.exponent + digitCount d.significand - 1
    if layout.first ≤ lead ∧ lead < layout.limit then positional (significantDigits d) lead
    else scientific (significantDigits d) lead

/-- The text of a finite number; the sign of a zero is written too. -/
def Layout.text (layout : Layout) (x : Binary64) : String :=
  String.ofList ((if x.isNegative then ['-'] else []) ++ layout.unsignedText x)

end Decimal
end WalletQuery
