import Mathlib.Data.List.GetD
import Mathlib.Data.List.Nodup
import WalletQuery.Cbor.ToJson

/-! Base 64 text tells byte strings apart. The digits of a full group carry all bits of its three
bytes, and the number of digits behind the full groups tells how many bytes are left over. -/
namespace WalletQuery.Base64Url

theorem nodup_alphabet : alphabet.Nodup := by decide

theorem eq_of_digit_eq {value other : Nat} (small : value < 64) (small' : other < 64)
    (same : digit value = digit other) : value = other := by
  have length : alphabet.length = 64 := rfl
  rw [digit, digit, List.getD_eq_getElem _ _ (length ▸ small),
    List.getD_eq_getElem _ _ (length ▸ small')] at same
  exact nodup_alphabet.getElem_inj_iff.1 same

/-- What the digits of a group tell of its bytes. -/
theorem eq_of_group_eq {a b c x y z : UInt8} (first : digit (a.toNat / 4) = digit (x.toNat / 4))
    (second : digit (a.toNat % 4 * 16 + b.toNat / 16) = digit (x.toNat % 4 * 16 + y.toNat / 16))
    (third : digit (b.toNat % 16 * 4 + c.toNat / 64) = digit (y.toNat % 16 * 4 + z.toNat / 64))
    (fourth : digit (c.toNat % 64) = digit (z.toNat % 64)) : a = x ∧ b = y ∧ c = z := by
  have := a.toNat_lt
  have := b.toNat_lt
  have := c.toNat_lt
  have := x.toNat_lt
  have := y.toNat_lt
  have := z.toNat_lt
  have first := eq_of_digit_eq (by omega) (by omega) first
  have second := eq_of_digit_eq (by omega) (by omega) second
  have third := eq_of_digit_eq (by omega) (by omega) third
  have fourth := eq_of_digit_eq (by omega) (by omega) fourth
  simp only [← UInt8.toNat_inj]
  omega

theorem eq_of_digits_eq {bytes others : List UInt8} (same : digits bytes = digits others) :
    bytes = others := by
  induction bytes using digits.induct generalizing others with
  | case1 a b c rest ih =>
    match others with
    | x :: y :: z :: others =>
      simp only [digits, List.cons.injEq] at same
      obtain ⟨first, second, third, fourth, same⟩ := same
      obtain ⟨rfl, rfl, rfl⟩ := eq_of_group_eq first second third fourth
      rw [ih same]
    | [_, _] | [_] | [] => simp [digits] at same
  | case2 a b =>
    match others with
    | [x, y] =>
      simp only [digits, List.cons.injEq] at same
      obtain ⟨first, second, third, -⟩ := same
      obtain ⟨rfl, rfl, -⟩ := eq_of_group_eq (c := 0) (z := 0) first second third rfl
      rfl
    | _ :: _ :: _ :: _ | [_] | [] => simp [digits] at same
  | case3 a =>
    match others with
    | [x] =>
      simp only [digits, List.cons.injEq] at same
      obtain ⟨first, second, -⟩ := same
      obtain ⟨rfl, -⟩ := eq_of_group_eq (b := 0) (y := 0) (c := 0) (z := 0) first second rfl rfl
      rfl
    | [_, _] | _ :: _ :: _ :: _ | [] => simp [digits] at same
  | case4 =>
    match others with
    | [] => rfl
    | [_] | [_, _] | _ :: _ :: _ :: _ => simp [digits] at same

theorem encode_injective : Function.Injective encode := by
  intro bytes others same
  exact eq_of_digits_eq (String.ofList_injective same)

end WalletQuery.Base64Url
