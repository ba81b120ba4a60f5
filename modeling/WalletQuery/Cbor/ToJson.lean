import WalletQuery.Cbor.Basic
import WalletQuery.Json.Text

/-! CBOR data items read as JSON values. Bytes become base 64 text over the alphabet that is safe in
addresses, without padding. -/
namespace WalletQuery.Base64Url

def alphabet : List Char :=
  "ABCDEFGHIJKLMNOPQRSTUVWXYZabcdefghijklmnopqrstuvwxyz0123456789-_".toList

def digit (value : Nat) : Char := alphabet.getD value 'A'

/-- Three bytes make four digits of six bits; of an incomplete group the digits are written that
carry its bits. -/
def digits : List UInt8 → List Char
  | a :: b :: c :: rest =>
    digit (a.toNat / 4) :: digit (a.toNat % 4 * 16 + b.toNat / 16) ::
      digit (b.toNat % 16 * 4 + c.toNat / 64) :: digit (c.toNat % 64) :: digits rest
  | [a, b] =>
    [digit (a.toNat / 4), digit (a.toNat % 4 * 16 + b.toNat / 16), digit (b.toNat % 16 * 4)]
  | [a] => [digit (a.toNat / 4), digit (a.toNat % 4 * 16)]
  | [] => []

def encode (bytes : List UInt8) : String := String.ofList (digits bytes)

end WalletQuery.Base64Url

namespace WalletQuery.Cbor

/-- An integer that JSON numbers do not cover is written as decimal text. -/
def intToJson (value : CborInt) : Json :=
  match Ranged.ofInt? (-0x8000000000000000) 0xffffffffffffffff value.val with
  | some value => .int value
  | none => .str (toString value.val)

def floatToJson (value : Binary64) : Json :=
  if h : value.isFinite then .float ⟨value, h⟩ else .null

/-- Text names a member as it is, any other key by its JSON text. -/
def keyName (key : Cbor) (asJson : Json) : String :=
  match key with
  | .text name => name
  | _ => asJson.text

mutual

/-- Bytes become base 64 text, a tag gives way to the item under it, and of the entries of a map
that go by one name the last is kept. -/
def toJson : Cbor → Json
  | .null => .null
  | .bool value => .bool value
  | .int value => intToJson value
  | .float value => floatToJson value
  | .text content => .str content
  | .bytes content => .str (Base64Url.encode content)
  | .arr items => .arr (itemsToJson items)
  | .tag _ item => toJson item
  | .map entries => .obj (Entries.ofList (entriesToJson entries))

def itemsToJson : List Cbor → List Json
  | [] => []
  | item :: rest => toJson item :: itemsToJson rest

def entriesToJson : List (Cbor × Cbor) → List (String × Json)
  | [] => []
  | (key, value) :: rest => (keyName key (toJson key), toJson value) :: entriesToJson rest

end

theorem itemsToJson_eq_map (items : List Cbor) : itemsToJson items = items.map toJson := by
  induction items with
  | nil => rfl
  | cons item rest ih => simp [itemsToJson, ih]

theorem entriesToJson_eq_map (entries : List (Cbor × Cbor)) :
    entriesToJson entries =
      entries.map fun entry => (keyName entry.1 entry.1.toJson, entry.2.toJson) := by
  induction entries with
  | nil => rfl
  | cons entry rest ih => simp [entriesToJson, ih]

end WalletQuery.Cbor
