import WalletQuery.Matching
import WalletQuery.Proofs.Dictionary
import WalletQuery.Proofs.Json.QuotationMarks

/-! CBOR data items without their tags. An item reads the same without them unless a text stands
under tags as the key of a map: then its name is the quoted text. The quotation marks of such names
are lost with the tags, and counting the marks shows that no other change makes up for them. -/
namespace WalletQuery
namespace Cbor

mutual

/-- Every tag gives way to the item under it, in the keys of maps too. -/
def strip : Cbor → Cbor
  | .arr items => .arr (stripItems items)
  | .tag _ item => strip item
  | .map entries => .map (stripEntries entries)
  | item => item

def stripItems : List Cbor → List Cbor
  | [] => []
  | item :: rest => strip item :: stripItems rest

def stripEntries : List (Cbor × Cbor) → List (Cbor × Cbor)
  | [] => []
  | (key, value) :: rest => (strip key, strip value) :: stripEntries rest

end

theorem stripItems_eq_map (items : List Cbor) : stripItems items = items.map strip := by
  induction items with
  | nil => rfl
  | cons item rest ih => simp [stripItems, ih]

theorem stripEntries_eq_map (entries : List (Cbor × Cbor)) :
    stripEntries entries = entries.map fun entry => (entry.1.strip, entry.2.strip) := by
  induction entries with
  | nil => rfl
  | cons entry rest ih => simp [stripEntries, ih]

/-- The part is the item itself, or is somewhere in it. -/
inductive OccursIn (part : Cbor) : Cbor → Prop
  | self : OccursIn part part
  | item {items : List Cbor} {item : Cbor} : item ∈ items → OccursIn part item →
      OccursIn part (.arr items)
  | tagged {number : UInt64} {item : Cbor} : OccursIn part item → OccursIn part (.tag number item)
  | key {entries : List (Cbor × Cbor)} {entry : Cbor × Cbor} : entry ∈ entries →
      OccursIn part entry.1 → OccursIn part (.map entries)
  | value {entries : List (Cbor × Cbor)} {entry : Cbor × Cbor} : entry ∈ entries →
      OccursIn part entry.2 → OccursIn part (.map entries)

/-- The item is no text under tags. -/
def IsPlainKey (key : Cbor) : Prop := ∀ name, key.strip = .text name → key = .text name

/-- All maps that occur in the item have such entries. -/
def EveryMap (p : List (Cbor × Cbor) → Prop) (item : Cbor) : Prop :=
  ∀ entries, OccursIn (.map entries) item → p entries

/-- No map that occurs in the item has a text under tags for a key. -/
def PlainKeys : Cbor → Prop := EveryMap fun entries => ∀ entry ∈ entries, entry.1.IsPlainKey

/-- No map that occurs in the item has two entries of one name. -/
def DistinctNames : Cbor → Prop := EveryMap fun entries =>
  ((entriesToJson entries).map Prod.fst).Nodup

section
variable {p : List (Cbor × Cbor) → Prop}

theorem everyMap_arr_iff {items : List Cbor} :
    EveryMap p (.arr items) ↔ ∀ item ∈ items, EveryMap p item := by
  constructor
  · exact fun every item mem entries occurs => every entries (.item mem occurs)
  · rintro every entries (_ | ⟨mem, occurs⟩)
    exact every _ mem entries occurs

theorem everyMap_tag_iff {number : UInt64} {item : Cbor} :
    EveryMap p (.tag number item) ↔ EveryMap p item := by
  constructor
  · exact fun every entries occurs => every entries (.tagged occurs)
  · rintro every entries (_ | _ | occurs)
    exact every entries occurs

theorem everyMap_map_iff {entries : List (Cbor × Cbor)} :
    EveryMap p (.map entries) ↔
      p entries ∧ ∀ entry ∈ entries, EveryMap p entry.1 ∧ EveryMap p entry.2 := by
  constructor
  · exact fun every => ⟨every entries .self, fun entry mem =>
      ⟨fun inner occurs => every inner (.key mem occurs),
        fun inner occurs => every inner (.value mem occurs)⟩⟩
  · rintro ⟨here, within⟩ inner (_ | _ | _ | ⟨mem, occurs⟩ | ⟨mem, occurs⟩)
    · exact here
    · exact (within _ mem).1 inner occurs
    · exact (within _ mem).2 inner occurs

end

theorem keyName_of_ne_text {key : Cbor} (other : ∀ name, key ≠ .text name) (asJson : Json) :
    keyName key asJson = asJson.text := by
  cases key with
  | text name => exact absurd rfl (other name)
  | _ => rfl

/-- A key that is no text without its tags is none with them. -/
theorem ne_text_of_strip_ne_text {key : Cbor} (other : ∀ name, key.strip ≠ .text name)
    (name : String) : key ≠ .text name := by
  rintro rfl
  exact other name rfl

theorem toJson_of_strip_eq_text {item : Cbor} {content : String}
    (h : item.strip = .text content) : item.toJson = .str content := by
  induction item with
  | text other =>
    obtain rfl := Cbor.text.inj h
    rfl
  | tag number item ih => exact ih h
  | _ => contradiction

theorem keyName_strip {key : Cbor} (plain : key.IsPlainKey)
    (same : key.strip.toJson = key.toJson) :
    keyName key.strip key.strip.toJson = keyName key key.toJson := by
  by_cases text : ∃ name, key.strip = .text name
  · obtain ⟨name, stripped⟩ := text
    obtain rfl := plain name stripped
    rfl
  · have other := not_exists.1 text
    rw [keyName_of_ne_text other, keyName_of_ne_text (ne_text_of_strip_ne_text other), same]

theorem toJson_strip_of_plainKeys {item : Cbor} (plain : item.PlainKeys) :
    item.strip.toJson = item.toJson := by
  induction item with
  | arr items ih =>
    simp only [strip, toJson, stripItems_eq_map, itemsToJson_eq_map, List.map_map]
    have plain := everyMap_arr_iff.1 plain
    exact congrArg Json.arr (List.map_congr_left fun item mem => ih item mem (plain item mem))
  | tag number item ih => exact ih (everyMap_tag_iff.1 plain)
  | map entries ih =>
    simp only [strip, toJson, stripEntries_eq_map, entriesToJson_eq_map, List.map_map]
    obtain ⟨plain, within⟩ := everyMap_map_iff.1 plain
    refine congrArg (Json.obj <| Entries.ofList ·) (List.map_congr_left fun entry mem => ?_)
    have key := (ih entry mem).1 (within entry mem).1
    have value := (ih entry mem).2 (within entry mem).2
    exact Prod.ext (keyName_strip (plain entry mem) key) value
  | _ => rfl

open Json (quotationMarks quotationMarks_arr quotationMarks_obj quotationMarks_quote memberMarks)

theorem sum_le_and_forall_of_eq {α : Type} {f g : α → Nat} {p : α → Prop} {xs : List α}
    (each : ∀ x ∈ xs, f x ≤ g x ∧ (f x = g x → p x)) :
    (xs.map f).sum ≤ (xs.map g).sum ∧ ((xs.map f).sum = (xs.map g).sum → ∀ x ∈ xs, p x) := by
  induction xs with
  | nil => exact ⟨Nat.le_refl _, fun _ => nofun⟩
  | cons x xs ih =>
    obtain ⟨⟨le, holds⟩, each⟩ := List.forall_mem_cons.1 each
    obtain ⟨le', rest⟩ := ih each
    simp only [List.map_cons, List.sum_cons]
    exact ⟨by omega, fun same => List.forall_mem_cons.2 ⟨holds (by omega), rest (by omega)⟩⟩

/-- The tags of an item can only add quotation marks, and add none just if its keys are plain. -/
def MarksBound (item : Cbor) : Prop :=
  quotationMarks item.strip.toJson.text ≤ quotationMarks item.toJson.text ∧
    (quotationMarks item.strip.toJson.text = quotationMarks item.toJson.text → item.PlainKeys)

theorem quotationMarks_keyName {key : Cbor} (bound : key.MarksBound) :
    quotationMarks (keyName key.strip key.strip.toJson) ≤ quotationMarks (keyName key key.toJson) ∧
      (quotationMarks (keyName key.strip key.strip.toJson) =
        quotationMarks (keyName key key.toJson) → key.IsPlainKey ∧ key.PlainKeys) := by
  by_cases text : ∃ name, key.strip = .text name
  · obtain ⟨name, stripped⟩ := text
    by_cases plain : key = .text name
    · subst plain
      exact ⟨Nat.le_refl _, fun _ => ⟨fun name same => same, nofun⟩⟩
    · have other (name' : String) : key ≠ .text name' := by
        rintro rfl
        exact plain stripped
      have quoted : quotationMarks (keyName key key.toJson) = quotationMarks name + 2 := by
        rw [keyName_of_ne_text other, toJson_of_strip_eq_text stripped, Json.text,
          quotationMarks_quote]
      have unquoted : keyName key.strip key.strip.toJson = name := by
        rw [stripped]
        rfl
      rw [quoted, unquoted]
      exact ⟨by omega, fun same => absurd same (by omega)⟩
  · have other := not_exists.1 text
    rw [keyName_of_ne_text other, keyName_of_ne_text (ne_text_of_strip_ne_text other)]
    exact ⟨bound.1, fun same => ⟨fun name stripped => absurd stripped (other name), bound.2 same⟩⟩

theorem memberMarks_strip {key value : Cbor} (keyBound : key.MarksBound)
    (valueBound : value.MarksBound) :
    memberMarks (keyName key.strip key.strip.toJson, value.strip.toJson) ≤
        memberMarks (keyName key key.toJson, value.toJson) ∧
      (memberMarks (keyName key.strip key.strip.toJson, value.strip.toJson) =
        memberMarks (keyName key key.toJson, value.toJson) →
          key.IsPlainKey ∧ key.PlainKeys ∧ value.PlainKeys) := by
  obtain ⟨le, plain⟩ := quotationMarks_keyName keyBound
  obtain ⟨le', plain'⟩ := valueBound
  simp only [memberMarks]
  refine ⟨by omega, fun same => ?_⟩
  obtain ⟨plainKey, within⟩ := plain (by omega)
  exact ⟨plainKey, within, plain' (by omega)⟩

theorem marksBound_of_distinctNames {item : Cbor} (distinct : item.DistinctNames) :
    item.MarksBound := by
  induction item with
  | arr items ih =>
    have distinct := everyMap_arr_iff.1 distinct
    have each : ∀ item ∈ items, item.MarksBound := fun item mem => ih item mem (distinct item mem)
    obtain ⟨le, plain⟩ := sum_le_and_forall_of_eq each
    simp only [MarksBound, strip, toJson, stripItems_eq_map, itemsToJson_eq_map, List.map_map,
      quotationMarks_arr]
    exact ⟨le, fun same => everyMap_arr_iff.2 (plain same)⟩
  | tag number item ih =>
    obtain ⟨le, plain⟩ := ih (everyMap_tag_iff.1 distinct)
    exact ⟨le, fun same => everyMap_tag_iff.2 (plain same)⟩
  | map entries ih =>
    obtain ⟨distinct, within⟩ := everyMap_map_iff.1 distinct
    obtain ⟨le, plain⟩ := sum_le_and_forall_of_eq fun entry mem =>
      memberMarks_strip ((ih entry mem).1 (within entry mem).1)
        ((ih entry mem).2 (within entry mem).2)
    -- with the tags all entries become members, without them some may go by one name
    have all := ((Entries.perm_ofList distinct).map memberMarks).sum_nat
    have some := Entries.sum_ofList_le memberMarks (entriesToJson (stripEntries entries))
    simp only [stripEntries_eq_map, entriesToJson_eq_map, List.map_map, Function.comp_def]
      at all some
    simp only [MarksBound, strip, toJson, quotationMarks_obj, stripEntries_eq_map,
      entriesToJson_eq_map, List.map_map, Function.comp_def]
    refine ⟨by omega, fun same => ?_⟩
    have plain := plain (by omega)
    exact everyMap_map_iff.2 ⟨fun entry mem => (plain entry mem).1,
      fun entry mem => (plain entry mem).2⟩
  | _ =>
    refine ⟨Nat.le_refl _, fun _ entries occurs => ?_⟩
    cases occurs

end Cbor

/-- Tags make no difference to how an item reads, nor to the values that it is accepted among, if it
has plain keys; and of the items in which the entries of each map have distinct names, these are
the only ones. -/
theorem Cbor.toJson_strip_eq_iff_plainKeys (item : Cbor) :
    (item.PlainKeys → item.strip.toJson = item.toJson ∧ ∀ accepted,
      (ClaimValue.mdoc item.strip).isAccepted accepted =
        (ClaimValue.mdoc item).isAccepted accepted) ∧
    (item.DistinctNames → (item.strip.toJson = item.toJson ↔ item.PlainKeys)) := by
  refine ⟨fun plain => ?_, fun distinct => ⟨fun same => ?_, toJson_strip_of_plainKeys⟩⟩
  · have same := toJson_strip_of_plainKeys plain
    exact ⟨same, ClaimValue.isAccepted_congr same⟩
  · exact (marksBound_of_distinctNames distinct).2 (congrArg _ (congrArg Json.text same))

/-- A date under its tag, and for its key the time at which it starts, under the tag of such
times. -/
def Cbor.dates : List (Cbor × Cbor) :=
  [(.tag 1 (.int ⟨194572800, by decide, by decide⟩), .tag 1004 (.text "1976-03-02"))]

theorem Cbor.toJson_strip_dates :
    let item := Cbor.map dates
    item.PlainKeys ∧ item.DistinctNames ∧ item.strip.toJson = item.toJson ∧
      (ClaimValue.mdoc item).isAccepted
        (some (.singleton (.obj [("194572800", .str "1976-03-02")]))) = true := by
  intro item
  have only {p : List (Cbor × Cbor) → Prop} (here : p dates) : item.EveryMap p := by
    refine everyMap_map_iff.2 ⟨here, fun entry mem => ?_⟩
    obtain rfl := List.mem_singleton.1 mem
    refine ⟨everyMap_tag_iff.2 ?_, everyMap_tag_iff.2 ?_⟩
    · rintro entries ⟨⟩
    · rintro entries ⟨⟩
  have plain : item.PlainKeys := only (by simp [dates, IsPlainKey, strip])
  have distinct : item.DistinctNames := only (List.pairwise_singleton _ _)
  obtain ⟨same, converse⟩ := toJson_strip_eq_iff_plainKeys item
  exact ⟨plain, distinct, (converse distinct).2 plain, ((same plain).2 _).symm.trans (by decide)⟩

/-- The text of a date names a member as it is, but in quotation marks if it stands under a tag. -/
theorem Cbor.toJson_taggedKey :
    let tagged := Cbor.map [(.tag 1004 (.text "1976-03-02"), .bool true)]
    tagged.toJson = .obj [("\"1976-03-02\"", .bool true)] ∧
      tagged.strip.toJson = .obj [("1976-03-02", .bool true)] ∧
      tagged.toJson ≠ tagged.strip.toJson ∧
      ∃ accepted, (ClaimValue.mdoc tagged).isAccepted accepted ≠
        (ClaimValue.mdoc tagged.strip).isAccepted accepted := by
  intro tagged
  have quoted : tagged.toJson = .obj [("\"1976-03-02\"", .bool true)] := by rfl
  have plain : tagged.strip.toJson = .obj [("1976-03-02", .bool true)] := by rfl
  refine ⟨quoted, plain, ?_, some (.singleton (.obj [("1976-03-02", .bool true)])), ?_⟩
  · rw [quoted, plain]
    simp
  · simp only [ClaimValue.isAccepted, ClaimValue.toJson, quoted, plain]
    decide

end WalletQuery
