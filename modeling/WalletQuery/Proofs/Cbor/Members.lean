import WalletQuery.Proofs.Cbor.Tags

/-! Which entries of a CBOR map make the members of the JSON object that the map is read as. Of the
entries of one name the last counts, and the order of entries of different names does not; so it is
wherever in an item the map stands. -/
namespace WalletQuery
namespace Cbor

/-- An item with a gap in it. -/
inductive Context where
  | gap
  | inItem (before : List Cbor) (inner : Context) (after : List Cbor)
  | inTag (number : UInt64) (inner : Context)
  | inKey (before : List (Cbor × Cbor)) (inner : Context) (value : Cbor)
    (after : List (Cbor × Cbor))
  | inValue (before : List (Cbor × Cbor)) (key : Cbor) (inner : Context)
    (after : List (Cbor × Cbor))

/-- The item in which the given one stands in the gap. -/
def Context.fill : Context → Cbor → Cbor
  | gap, part => part
  | inItem before inner after, part => .arr (before ++ inner.fill part :: after)
  | inTag number inner, part => .tag number (inner.fill part)
  | inKey before inner value after, part => .map (before ++ (inner.fill part, value) :: after)
  | inValue before key inner after, part => .map (before ++ (key, inner.fill part) :: after)

/-- The name of the member that the entry of a map becomes. -/
def entryName (entry : Cbor × Cbor) : String := keyName entry.1 entry.1.toJson

section
variable {entries others front back : List (Cbor × Cbor)} {entry : Cbor × Cbor}

theorem map_fst_entriesToJson (entries : List (Cbor × Cbor)) :
    (entriesToJson entries).map Prod.fst = entries.map entryName := by
  rw [entriesToJson_eq_map, List.map_map]
  rfl

theorem entriesToJson_append (front back : List (Cbor × Cbor)) :
    entriesToJson (front ++ back) = entriesToJson front ++ entriesToJson back := by
  simp only [entriesToJson_eq_map, List.map_append]

theorem Context.fill_map_ne_text (place : Context) (name : String) :
    place.fill (.map entries) ≠ .text name := by
  cases place <;> simp [fill]

/-- Maps that are read alike are read alike wherever they stand. For the key of an entry this needs
that a map is no text, which would name a member in another way. -/
theorem Context.toJson_fill_map (place : Context)
    (same : (Cbor.map entries).toJson = (Cbor.map others).toJson) :
    (place.fill (.map entries)).toJson = (place.fill (.map others)).toJson := by
  induction place with
  | gap => exact same
  | inItem before inner after ih =>
    simp only [fill, toJson, itemsToJson_eq_map, List.map_append, List.map_cons, ih]
  | inTag number inner ih => exact ih
  | inKey before inner value after ih =>
    simp only [fill, toJson, entriesToJson_eq_map, List.map_append, List.map_cons,
      keyName_of_ne_text inner.fill_map_ne_text, ih]
  | inValue before key inner after ih =>
    simp only [fill, toJson, entriesToJson_eq_map, List.map_append, List.map_cons, ih]

/-- Entries of distinct names may change places. -/
theorem toJson_map_of_perm (front back : List (Cbor × Cbor))
    (distinct : (entries.map entryName).Nodup) (h : entries.Perm others) :
    (Cbor.map (front ++ entries ++ back)).toJson = (Cbor.map (front ++ others ++ back)).toJson := by
  have perm : (entriesToJson entries).Perm (entriesToJson others) := by
    simp only [entriesToJson_eq_map]
    exact h.map _
  rw [← map_fst_entriesToJson] at distinct
  have same := Entries.ofList_eq_of_perm distinct perm
  simp only [toJson, entriesToJson_append]
  rw [Entries.ofList_append_congr _ _ same]

/-- An entry may be left out if a later one has its name. -/
theorem toJson_map_of_later (front : List (Cbor × Cbor))
    (later : entryName entry ∈ back.map entryName) :
    (Cbor.map (front ++ entry :: back)).toJson = (Cbor.map (front ++ back)).toJson := by
  rw [← map_fst_entriesToJson] at later
  have same : Entries.ofList (entriesToJson (entry :: back)) =
      Entries.ofList (entriesToJson back) := Entries.ofList_cons_of_mem later
  have among := Entries.ofList_append_congr (entriesToJson front) [] same
  simp only [List.append_nil] at among
  simp only [toJson, entriesToJson_append, among]

theorem lookup_of_last (last : entryName entry ∉ back.map entryName) :
    (Entries.ofList (entriesToJson (front ++ entry :: back))).lookup (entryName entry) =
      some entry.2.toJson := by
  rw [← map_fst_entriesToJson] at last
  rw [entriesToJson_append]
  exact Entries.lookup_ofList_of_last _ (entryName entry, entry.2.toJson) last

end

/-- The name of an entry is its key if that is a text, and else the JSON text of what the key is
read as. Wherever a map stands in an item, its entries of distinct names may change places and
entries with later ones of their names may be left out. The members of the object that the map is
read as have the names of the entries, and each has the value of the last entry of its name. -/
theorem last_entry_of_name_counts (place : Context) :
    (∀ name value, entryName (.text name, value) = name) ∧
    (∀ key value, (∀ name, key ≠ .text name) → entryName (key, value) = key.toJson.text) ∧
    (∀ front entries others back, (entries.map entryName).Nodup → entries.Perm others →
      (place.fill (.map (front ++ entries ++ back))).toJson =
        (place.fill (.map (front ++ others ++ back))).toJson) ∧
    (∀ front entry back, entryName entry ∈ back.map entryName →
      (place.fill (.map (front ++ entry :: back))).toJson =
        (place.fill (.map (front ++ back))).toJson) ∧
    ∀ entries, ∃ members, (Cbor.map entries).toJson = .obj members ∧
      (∀ name, name ∈ members.map Prod.fst ↔ name ∈ entries.map entryName) ∧
      ∀ front entry back, entries = front ++ entry :: back →
        entryName entry ∉ back.map entryName →
        members.lookup (entryName entry) = some entry.2.toJson := by
  refine ⟨fun _ _ => rfl, fun key _ other => keyName_of_ne_text other key.toJson, ?_, ?_, ?_⟩
  · intro front entries others back distinct perm
    apply place.toJson_fill_map
    exact toJson_map_of_perm front back distinct perm
  · intro front entry back later
    apply place.toJson_fill_map
    exact toJson_map_of_later front later
  · intro entries
    refine ⟨_, rfl, fun name => ?_, fun front entry back split last => ?_⟩
    · rw [Entries.mem_names_ofList, map_fst_entriesToJson]
    · subst split
      exact lookup_of_last last

/-- The integer 1 and the text 1 name one member, and the integer 2 and a map name two others. In a
tagged map in an array in a map, the first of the entries is left out and the others change
places. -/
theorem toJson_codes :
    let place := Context.inValue [] (.text "listed") (.inItem [.null] (.inTag 24 .gap) []) []
    let one := (Cbor.int ⟨1, by decide, by decide⟩, Cbor.null)
    let two := (Cbor.int ⟨2, by decide, by decide⟩, Cbor.bool true)
    let pairs := Cbor.map [(.text "b", .null), (.text "a", .bytes [0xff])]
    let digit := (Cbor.text "1", Cbor.bool false)
    let entries := [two, (pairs, .null), digit]
    let read := [("1", Json.bool false), ("2", .bool true),
      ("\x7b\"a\":\"_w\",\"b\":null\x7d", .null)]
    (entryName digit = "1" ∧ (∀ name, pairs ≠ .text name) ∧
        entryName (pairs, .null) = pairs.toJson.text) ∧
      (entries.map entryName).Nodup ∧ entries.Perm [digit, two, (pairs, .null)] ∧
      entryName one ∈ entries.map entryName ∧
      (place.fill (.map [one, digit, two, (pairs, .null)])).toJson =
        .obj [("listed", .arr [.null, .obj read])] ∧
      ∃ members, (Cbor.map (one :: entries)).toJson = .obj members ∧
        members.lookup "1" = some (.bool false) := by
  intro place one two pairs digit entries read
  have other : ∀ name, pairs ≠ .text name := nofun
  have named : entryName (pairs, .null) = "\x7b\"a\":\"_w\",\"b\":null\x7d" := rfl
  have distinct : (entries.map entryName).Nodup := by decide
  have moves : entries.Perm [digit, two, (pairs, .null)] :=
    @List.perm_append_comm _ [_, _] [digit]
  have later : entryName one ∈ entries.map entryName := by decide
  have last : entryName digit ∉ ([] : List (Cbor × Cbor)).map entryName := by simp
  obtain ⟨ofText, ofOther, moved, leftOut, members⟩ := last_entry_of_name_counts place
  obtain ⟨object, asObject, -, values⟩ := members (one :: entries)
  refine ⟨⟨ofText "1" _, other, ofOther pairs _ other⟩, distinct, moves, later, ?_, object,
    asObject, values [one, two, (pairs, .null)] digit [] rfl last⟩
  calc
    (place.fill (.map [one, digit, two, (pairs, .null)])).toJson
      = (place.fill (.map (one :: entries))).toJson :=
        (moved [one] entries [digit, two, (pairs, .null)] [] distinct moves).symm
    _ = (place.fill (.map entries)).toJson := leftOut [] one entries later
    _ = .obj [("listed", .arr [.null, .obj (Entries.ofList
          [("2", .bool true), (entryName (pairs, .null), .null), ("1", .bool false)])])] := rfl
    _ = .obj [("listed", .arr [.null, .obj read])] := by
      rw [named]
      rfl

end Cbor
end WalletQuery
