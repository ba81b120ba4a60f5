import WalletQuery.Decimal
import WalletQuery.Json.Basic

/-! The compact text of a JSON value. -/
namespace WalletQuery.Json

/-- Quotes, backslashes and controls are escaped, and nothing else. -/
def escape (c : Char) : List Char :=
  match c with
  | '"' => ['\\', '"']
  | '\\' => ['\\', '\\']
  | '\x08' => ['\\', 'b']
  | '\x0c' => ['\\', 'f']
  | '\n' => ['\\', 'n']
  | '\r' => ['\\', 'r']
  | '\t' => ['\\', 't']
  | c =>
    if c.toNat < 0x20 then
      ['\\', 'u', '0', '0', Nat.digitChar (c.toNat / 16), Nat.digitChar (c.toNat % 16)]
    else [c]

def quote (text : String) : String :=
  String.ofList ('"' :: text.toList.flatMap escape ++ ['"'])

mutual

def text : Json → String
  | .null => "null"
  | .bool value => if value then "true" else "false"
  | .int value => toString value.val
  | .float value => Decimal.Layout.standard.text value.val
  | .str content => quote content
  | .arr items => "[" ++ ",".intercalate (itemTexts items) ++ "]"
  | .obj members => "\x7b" ++ ",".intercalate (memberTexts members) ++ "\x7d"

def itemTexts : List Json → List String
  | [] => []
  | item :: rest => text item :: itemTexts rest

def memberTexts : List (String × Json) → List String
  | [] => []
  | (name, value) :: rest => (quote name ++ ":" ++ text value) :: memberTexts rest

end

theorem itemTexts_eq_map (items : List Json) : itemTexts items = items.map text := by
  induction items with
  | nil => rfl
  | cons item rest ih => simp [itemTexts, ih]

theorem memberTexts_eq_map (members : List (String × Json)) :
    memberTexts members = members.map fun member => quote member.1 ++ ":" ++ text member.2 := by
  induction members with
  | nil => rfl
  | cons member rest ih => simp [memberTexts, ih]

end WalletQuery.Json
