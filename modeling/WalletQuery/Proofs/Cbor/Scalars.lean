import WalletQuery.Proofs.Base64Url
import WalletQuery.Proofs.Cbor.Kind

/-! Scalars of one kind are read apart, and so are arrays of them: no two truth values, integers,
texts or byte strings are read as one JSON value. Therefore a list of accepted values that is read
from such items accepts these items and none of the others. -/
namespace WalletQuery.Cbor

/-- Floats are no kind of their own, as all that are not finite are read as null. -/
inductive ScalarKind where
  | boolean
  | integer
  | text
  | bytes

inductive IsScalar : ScalarKind → Cbor → Prop
  | boolean (value : Bool) : IsScalar .boolean (.bool value)
  | integer (value : CborInt) : IsScalar .integer (.int value)
  | text (content : String) : IsScalar .text (.text content)
  | bytes (content : List UInt8) : IsScalar .bytes (.bytes content)

/-- The item is a scalar of the kind, or an array, of any depth, of such scalars. -/
inductive HoldsOnly (kind : ScalarKind) : Cbor → Prop
  | scalar {item : Cbor} : IsScalar kind item → HoldsOnly kind item
  | arr {items : List Cbor} : (∀ item ∈ items, HoldsOnly kind item) → HoldsOnly kind (.arr items)

variable {kind : ScalarKind} {a b item : Cbor} {items : List Cbor}

/-- The digits of a number are read back. -/
theorem eq_of_repr_eq {m n : Nat} (same : m.repr = n.repr) : m = n := by
  rw [Nat.repr_eq_ofList_toDigits, Nat.repr_eq_ofList_toDigits] at same
  have digits := String.ofList_injective same
  calc
    m = Nat.ofDigitChars 10 (Nat.toDigits 10 m) 0 := Nat.ofDigitChars_ten_toDigits.symm
    _ = Nat.ofDigitChars 10 (Nat.toDigits 10 n) 0 := by rw [digits]
    _ = n := Nat.ofDigitChars_ten_toDigits

theorem eq_of_repr_eq_of_neg {m n : Int} (hm : m < 0) (hn : n < 0) (same : m.repr = n.repr) :
    m = n := by
  obtain ⟨a, rfl⟩ := Int.eq_negSucc_of_lt_zero hm
  obtain ⟨b, rfl⟩ := Int.eq_negSucc_of_lt_zero hn
  have digits : (a + 1).repr = (b + 1).repr := (String.append_right_inj "-").1 same
  rw [Nat.succ.inj (eq_of_repr_eq digits)]

/-- A number is no text, numbers are told apart by their values and texts by their digits. -/
theorem eq_of_intToJson_beq {m n : CborInt} (same : (intToJson m == intToJson n) = true) :
    m = n := by
  unfold intToJson at same
  split at same
  · next number read =>
    split at same
    · next other read' =>
      have values : number = other := eq_of_beq same
      apply Ranged.ext
      rw [Ranged.ofInt?_eq_some_iff.1 read, Ranged.ofInt?_eq_some_iff.1 read', values]
    · contradiction
  · next lost =>
    split at same
    · contradiction
    · next lost' =>
      have below := ofInt?_eq_none_iff_lt.1 lost
      have below' := ofInt?_eq_none_iff_lt.1 lost'
      exact Ranged.ext (eq_of_repr_eq_of_neg (by omega) (by omega) (eq_of_beq same))

theorem IsScalar.eq_of_toJson_beq (ha : IsScalar kind a) (hb : IsScalar kind b)
    (same : (a.toJson == b.toJson) = true) : a = b := by
  cases ha with
  | boolean value =>
    cases hb with
    | boolean other => exact congrArg Cbor.bool (eq_of_beq same)
  | integer value =>
    cases hb with
    | integer other => exact congrArg Cbor.int (eq_of_intToJson_beq same)
  | text content =>
    cases hb with
    | text other => exact congrArg Cbor.text (eq_of_beq same)
  | bytes content =>
    cases hb with
    | bytes other => exact congrArg Cbor.bytes (Base64Url.encode_injective (eq_of_beq same))

theorem IsScalar.jsonKind_ne_array (h : IsScalar kind item) (length : Nat) :
    item.jsonKind ≠ .array length := by
  intro isArray
  cases h with
  | integer value =>
    unfold jsonKind at isArray
    split at isArray <;> cases isArray
  | _ => cases isArray

/-- Arrays that are read alike have as many items, and each is read like the one in its place. -/
theorem forall₂_of_toJson_arr_beq {items others : List Cbor}
    (same : ((Cbor.arr items).toJson == (Cbor.arr others).toJson) = true) :
    List.Forall₂ (fun item other => (item.toJson == other.toJson) = true) items others := by
  have same : (items.map toJson == others.map toJson) = true := by
    rw [← itemsToJson_eq_map, ← itemsToJson_eq_map, ← Json.beqItems_eq]
    exact same
  have each := beq_iff_forall₂.1 same
  rwa [List.forall₂_map_left_iff, List.forall₂_map_right_iff] at each

theorem jsonKind_eq_of_toJson_beq (same : (a.toJson == b.toJson) = true) :
    a.jsonKind = b.jsonKind := by
  rw [← kind_toJson, ← kind_toJson, Json.kind_eq_of_beq same]

theorem HoldsOnly.eq_of_toJson_beq (ha : HoldsOnly kind a) (hb : HoldsOnly kind b)
    (same : (a.toJson == b.toJson) = true) : a = b := by
  induction ha generalizing b with
  | scalar ha =>
    cases hb with
    | scalar hb => exact ha.eq_of_toJson_beq hb same
    | arr _ => exact absurd (jsonKind_eq_of_toJson_beq same) (ha.jsonKind_ne_array _)
  | arr _ ih =>
    cases hb with
    | scalar hb => exact absurd (jsonKind_eq_of_toJson_beq same).symm (hb.jsonKind_ne_array _)
    | arr only =>
      obtain ⟨length, each⟩ := List.forall₂_iff_get.1 (forall₂_of_toJson_arr_beq same)
      refine congrArg Cbor.arr (List.ext_getElem length fun i h h' => ?_)
      exact ih _ (List.getElem_mem h) (only _ (List.getElem_mem h')) (each i h h')

theorem isAccepted_iff_mem {accepted : NonEmptyList Json}
    (read : accepted.toList = items.map toJson) (each : ∀ other ∈ items, HoldsOnly kind other)
    (only : HoldsOnly kind item) :
    (ClaimValue.mdoc item).isAccepted (some accepted) = true ↔ item ∈ items := by
  rw [ClaimValue.isAccepted, read, List.any_eq_true]
  constructor
  · intro accepts
    obtain ⟨_, read, same⟩ := accepts
    obtain ⟨other, mem, rfl⟩ := List.mem_map.1 read
    rwa [← (each other mem).eq_of_toJson_beq only same]
  · intro mem
    exact ⟨item.toJson, List.mem_map_of_mem mem, BEq.rfl⟩

/-- Two scalars of one kind that differ are read as different values, and so are two arrays of
scalars of one kind that differ in length or in some place. Of the items that hold only scalars of
the kind, a list of accepted values accepts just those that its values were read from. -/
theorem toJson_tells_apart (kind : ScalarKind) :
    (∀ a b, IsScalar kind a → IsScalar kind b → a ≠ b → (a.toJson == b.toJson) = false) ∧
    (∀ as bs : List Cbor, (∀ a ∈ as, IsScalar kind a) → (∀ b ∈ bs, IsScalar kind b) →
      (as.length ≠ bs.length ∨ ∃ i : Nat, as[i]? ≠ bs[i]?) →
      ((Cbor.arr as).toJson == (Cbor.arr bs).toJson) = false) ∧
    ∀ (items : List Cbor) item accepted, (∀ other ∈ items, HoldsOnly kind other) →
      HoldsOnly kind item → accepted.toList = items.map toJson →
      ((ClaimValue.mdoc item).isAccepted (some accepted) = true ↔ item ∈ items) := by
  have apart {a b : Cbor} (ha : HoldsOnly kind a) (hb : HoldsOnly kind b) (differ : a ≠ b) :
      (a.toJson == b.toJson) = false := by
    rw [Bool.eq_false_iff]
    exact mt (ha.eq_of_toJson_beq hb) differ
  refine ⟨?_, ?_, ?_⟩
  · intro a b ha hb
    exact apart (.scalar ha) (.scalar hb)
  · intro as bs scalars scalars' differ
    apply apart (.arr fun a mem => .scalar (scalars a mem))
      (.arr fun b mem => .scalar (scalars' b mem))
    rintro ⟨⟩
    rcases differ with longer | ⟨i, other⟩
    · exact longer rfl
    · exact other rfl
  · intro items item accepted each only read
    exact isAccepted_iff_mem read each only

/-- The two least integers, both of which are read as texts, alone and in arrays; and byte strings
of which one is the other with a zero behind it. -/
theorem toJson_tells_leastIntegers_apart :
    let least := Cbor.int ⟨-0x10000000000000000, by decide, by decide⟩
    let next := Cbor.int ⟨-0xffffffffffffffff, by decide, by decide⟩
    let short := Cbor.bytes [0xfb]
    let long := Cbor.bytes [0xfb, 0]
    (IsScalar .integer least ∧ IsScalar .integer next ∧ least ≠ next) ∧
      (least.toJson == next.toJson) = false ∧
      ((Cbor.arr [short, long]).toJson == (Cbor.arr [short, short]).toJson) = false ∧
      (ClaimValue.mdoc next).isAccepted (some (.singleton least.toJson)) = false ∧
      (ClaimValue.mdoc (.arr [.arr [least], next])).isAccepted
        (some ⟨least.toJson, [(Cbor.arr [.arr [least], next]).toJson]⟩) = true := by
  intro least next short long
  obtain ⟨apart, -, accepts⟩ := toJson_tells_apart .integer
  obtain ⟨-, arraysApart, -⟩ := toJson_tells_apart .bytes
  have scalar : IsScalar .integer least := .integer _
  have scalar' : IsScalar .integer next := .integer _
  have differ : least ≠ next := fun same =>
    absurd (congrArg Ranged.val (Cbor.int.inj same)) (by decide)
  have nested : HoldsOnly .integer (.arr [.arr [least], next]) := by
    refine .arr (List.forall_mem_cons.2 ⟨.arr ?_, ?_⟩)
    · exact List.forall_mem_singleton.2 (.scalar scalar)
    · exact List.forall_mem_singleton.2 (.scalar scalar')
  have only : ∀ other ∈ [least], HoldsOnly .integer other :=
    List.forall_mem_singleton.2 (.scalar scalar)
  refine ⟨⟨scalar, scalar', differ⟩, apart least next scalar scalar' differ, ?_, ?_, ?_⟩
  · apply arraysApart
    · exact List.forall_mem_cons.2 ⟨.bytes _, List.forall_mem_singleton.2 (.bytes _)⟩
    · exact List.forall_mem_cons.2 ⟨.bytes _, List.forall_mem_singleton.2 (.bytes _)⟩
    · exact .inr ⟨1, by simp [short, long]⟩
  · rw [Bool.eq_false_iff, ne_eq, accepts [least] next _ only (.scalar scalar') rfl]
    exact mt List.mem_singleton.1 (Ne.symm differ)
  · rw [accepts [least, .arr [.arr [least], next]] _ _ _ nested rfl]
    · simp
    · exact List.forall_mem_cons.2 ⟨.scalar scalar, List.forall_mem_singleton.2 nested⟩

end WalletQuery.Cbor
