import WalletQuery.Matching

/-! JSON values as CBOR data items. Reading such an item gives the value back, so that a value is
accepted or not whichever of the two encodings a credential holds it in. -/
namespace WalletQuery.Json

/-- The integers of JSON are among those of CBOR. -/
def intToCbor (value : JsonInt) : CborInt where
  val := value.val
  first_le := by have := value.first_le; omega
  le_last := value.le_last

mutual

/-- Each kind of value has its kind of item; the members of an object become entries with their
names as text. -/
def toCbor : Json → Cbor
  | .null => .null
  | .bool value => .bool value
  | .int value => .int (intToCbor value)
  | .float value => .float value.val
  | .str content => .text content
  | .arr items => .arr (itemsToCbor items)
  | .obj members => .map (membersToCbor members)

def itemsToCbor : List Json → List Cbor
  | [] => []
  | item :: rest => toCbor item :: itemsToCbor rest

def membersToCbor : List (String × Json) → List (Cbor × Cbor)
  | [] => []
  | (name, value) :: rest => (.text name, toCbor value) :: membersToCbor rest

end

theorem intToJson_intToCbor (value : JsonInt) : Cbor.intToJson (intToCbor value) = .int value := by
  have inRange : Ranged.ofInt? (-0x8000000000000000) 0xffffffffffffffff (intToCbor value).val =
      some value := Ranged.ofInt?_val value
  simp only [Cbor.intToJson, inRange]

theorem floatToJson_val (value : FiniteBinary64) : Cbor.floatToJson value.val = .float value :=
  dif_pos value.property

mutual

theorem toJson_toCbor : (value : Json) → value.Canonical → value.toCbor.toJson = value
  | .null, _ => rfl
  | .bool _, _ => rfl
  | .int value, _ => intToJson_intToCbor value
  | .float value, _ => floatToJson_val value
  | .str _, _ => rfl
  | .arr items, canonical => congrArg arr (itemsToJson_itemsToCbor items canonical)
  | .obj members, canonical => by
    have rebuilt := entriesToJson_membersToCbor members canonical.2
    simp only [toCbor, Cbor.toJson, rebuilt, Entries.ofList_of_ascending canonical.1]

theorem itemsToJson_itemsToCbor : (items : List Json) → CanonicalItems items →
    Cbor.itemsToJson (itemsToCbor items) = items
  | [], _ => rfl
  | item :: rest, canonical => by
    simp only [itemsToCbor, Cbor.itemsToJson, toJson_toCbor item canonical.1,
      itemsToJson_itemsToCbor rest canonical.2]

theorem entriesToJson_membersToCbor : (members : List (String × Json)) →
    CanonicalMembers members → Cbor.entriesToJson (membersToCbor members) = members
  | [], _ => rfl
  | (name, value) :: rest, canonical => by
    simp only [membersToCbor, Cbor.entriesToJson, Cbor.keyName, toJson_toCbor value canonical.1,
      entriesToJson_membersToCbor rest canonical.2]

end

/-- The item of a value reads as the value, and it is accepted just if the value is. -/
theorem toJson_and_isAccepted_toCbor (value : Json) (canonical : value.Canonical) :
    value.toCbor.toJson = value ∧ ∀ accepted,
      (ClaimValue.mdoc value.toCbor).isAccepted accepted =
        (ClaimValue.json value).isAccepted accepted := by
  have same := toJson_toCbor value canonical
  exact ⟨same, ClaimValue.isAccepted_congr same⟩

/-- The ends of the integers, a zero and a one that are no integers, and an object in an object. -/
def measurements : Json :=
  .obj [("ends", .arr [.int ⟨-0x8000000000000000, by decide, by decide⟩,
      .int ⟨0xffffffffffffffff, by decide, by decide⟩]),
    ("floats", .arr [.float ⟨⟨0x8000000000000000⟩, by decide⟩,
      .float ⟨⟨0x3ff0000000000000⟩, by decide⟩]),
    ("none", .obj [("known", .bool false), ("value", .null)])]

theorem isAccepted_measurements :
    measurements.Canonical ∧ measurements.toCbor.toJson = measurements ∧
      (ClaimValue.mdoc measurements.toCbor).isAccepted (some (.singleton measurements)) = true ∧
      (ClaimValue.mdoc measurements.toCbor).isAccepted (some (.singleton .null)) = false := by
  have canonical : measurements.Canonical := by decide
  obtain ⟨same, accepts⟩ := toJson_and_isAccepted_toCbor measurements canonical
  exact ⟨canonical, same, (accepts _).trans rfl, (accepts _).trans rfl⟩

end WalletQuery.Json
