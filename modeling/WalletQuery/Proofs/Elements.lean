import Mathlib.Data.List.Induction
import WalletQuery.Credential
import WalletQuery.Proofs.Dictionary

/-! The data elements of an mdoc after any run of calls that set them. An element has the value of
the last call for it, and nothing else of the run can be seen: the order of the calls and the
values that were replaced leave no trace, as no namespace is there without an element. -/
namespace WalletQuery

structure ElementCall where
  nameSpace : String
  element : String
  value : Cbor

namespace ElementCall
variable {calls : List ElementCall} {nameSpace element : String}

def sets (call : ElementCall) (nameSpace element : String) : Bool :=
  nameSpace == call.nameSpace && element == call.element

/-- The last one of the calls that set the element. -/
def IsLast (calls : List ElementCall) (nameSpace element : String) (call : ElementCall) : Prop :=
  call.sets nameSpace element = true ∧ ∃ before after, calls = before ++ call :: after ∧
    ∀ later ∈ after, later.sets nameSpace element = false

theorem find?_reverse_eq_some_iff {call : ElementCall} :
    calls.reverse.find? (·.sets nameSpace element) = some call ↔
      IsLast calls nameSpace element call := by
  simp only [List.find?_eq_some_iff_append, Bool.not_eq_true', IsLast]
  refine and_congr_right fun _ => ?_
  constructor
  · rintro ⟨after, before, split, none⟩
    rw [List.reverse_eq_iff] at split
    exact ⟨before.reverse, after.reverse, by simp [split], by simpa using none⟩
  · rintro ⟨before, after, rfl, none⟩
    exact ⟨after.reverse, before.reverse, by simp, by simpa using none⟩

def applyTo (call : ElementCall) (claims : MdocClaims) : MdocClaims :=
  claims.setElement call.nameSpace call.element call.value

theorem element?_applyTo (call : ElementCall) (claims : MdocClaims) :
    (call.applyTo claims).element? nameSpace element =
      if call.sets nameSpace element then some call.value
      else claims.element? nameSpace element := by
  simp only [applyTo, MdocClaims.element?_setElement, sets, Bool.and_eq_true, beq_iff_eq]

end ElementCall

namespace MdocClaims
variable {a b claims : MdocClaims}

def ofCalls (doctype : String) (calls : List ElementCall) : MdocClaims :=
  calls.foldl (fun claims call => call.applyTo claims) (ofDoctype doctype)

theorem ofCalls_append_singleton (doctype : String) (calls : List ElementCall)
    (call : ElementCall) :
    ofCalls doctype (calls ++ [call]) = call.applyTo (ofCalls doctype calls) := by
  simp [ofCalls]

theorem element?_ofCalls (doctype : String) (calls : List ElementCall)
    (nameSpace element : String) :
    (ofCalls doctype calls).element? nameSpace element =
      (calls.reverse.find? (·.sets nameSpace element)).map ElementCall.value := by
  induction calls using List.reverseRecOn with
  | nil => rfl
  | append_singleton calls call ih =>
    rw [ofCalls_append_singleton, ElementCall.element?_applyTo, ih, List.reverse_append,
      List.reverse_singleton, List.singleton_append, List.find?_cons]
    cases call.sets nameSpace element <;> rfl

theorem doctype_ofCalls (doctype : String) (calls : List ElementCall) :
    (ofCalls doctype calls).doctype = doctype := by
  induction calls using List.reverseRecOn with
  | nil => rfl
  | append_singleton calls call ih =>
    rw [ofCalls_append_singleton]
    exact ih

/-- Every namespace has an element. -/
def Filled (claims : MdocClaims) : Prop :=
  ∀ nameSpace elements, claims.namespaces.get? nameSpace = some elements →
    ∃ element value, elements.get? element = some value

theorem filled_applyTo (call : ElementCall) (h : claims.Filled) :
    (call.applyTo claims).Filled := by
  intro nameSpace elements found
  rw [ElementCall.applyTo, setElement, Dictionary.get?_insert] at found
  split at found
  · obtain rfl := Option.some.inj found
    exact ⟨call.element, call.value, by rw [Dictionary.get?_insert, if_pos rfl]⟩
  · exact h nameSpace elements found

theorem filled_ofCalls (doctype : String) (calls : List ElementCall) :
    (ofCalls doctype calls).Filled := by
  induction calls using List.reverseRecOn with
  | nil => exact fun _ _ => nofun
  | append_singleton calls call ih =>
    rw [ofCalls_append_singleton]
    exact filled_applyTo call ih

theorem beq_iff :
    (a == b) = true ↔ a.doctype = b.doctype ∧ (a.namespaces == b.namespaces) = true := by
  change (a.doctype == b.doctype && a.namespaces == b.namespaces) = true ↔ _
  rw [Bool.and_eq_true, beq_iff_eq]

/-- Where every namespace has an element, the namespaces are equal if all their elements are. -/
theorem beq_namespaces_iff (ha : a.Filled) (hb : b.Filled) :
    (a.namespaces == b.namespaces) = true ↔ ∀ nameSpace element,
      Option.Rel (fun x y => (x == y) = true) (a.element? nameSpace element)
        (b.element? nameSpace element) := by
  rw [Dictionary.beq_iff_rel_get?]
  refine forall_congr' fun nameSpace => ?_
  unfold element?
  cases inA : a.namespaces.get? nameSpace with
  | none =>
    cases inB : b.namespaces.get? nameSpace with
    | none => simp
    | some elements =>
      obtain ⟨element, value, found⟩ := hb nameSpace elements inB
      refine ⟨nofun, fun related => ?_⟩
      simpa [found] using related element
  | some elements =>
    cases inB : b.namespaces.get? nameSpace with
    | none =>
      obtain ⟨element, value, found⟩ := ha nameSpace elements inA
      refine ⟨nofun, fun related => ?_⟩
      simpa [found] using related element
    | some others => simp [Dictionary.beq_iff_rel_get?]

theorem ofCalls_beq_iff (doctype : String) (calls others : List ElementCall) :
    (ofCalls doctype calls == ofCalls doctype others) = true ↔ ∀ nameSpace element,
      Option.Rel (fun x y => (x == y) = true)
        ((ofCalls doctype calls).element? nameSpace element)
        ((ofCalls doctype others).element? nameSpace element) := by
  rw [beq_iff, doctype_ofCalls, doctype_ofCalls,
    beq_namespaces_iff (filled_ofCalls _ _) (filled_ofCalls _ _)]
  exact and_iff_right rfl

/-- After any run of calls an element has the value of the last call for it, or none if there is no
such call. Two runs make equal claims, whatever the order and the repetition of their calls, just
if every element either has no value after both or has equal values. -/
theorem elements_of_last_calls (doctype : String) (calls : List ElementCall) :
    (∀ nameSpace element,
      (∀ value, (ofCalls doctype calls).element? nameSpace element = some value ↔
        ∃ call, ElementCall.IsLast calls nameSpace element call ∧ call.value = value) ∧
      ((ofCalls doctype calls).element? nameSpace element = none ↔
        ∀ call ∈ calls, call.sets nameSpace element = false)) ∧
    ∀ others, (ofCalls doctype calls == ofCalls doctype others) = true ↔
      ∀ nameSpace element, Option.Rel (fun x y => (x == y) = true)
        ((ofCalls doctype calls).element? nameSpace element)
        ((ofCalls doctype others).element? nameSpace element) := by
  refine ⟨fun nameSpace element => ⟨fun value => ?_, ?_⟩, ofCalls_beq_iff doctype calls⟩
  · rw [element?_ofCalls, Option.map_eq_some_iff]
    simp only [ElementCall.find?_reverse_eq_some_iff]
  · rw [element?_ofCalls, Option.map_eq_none_iff, List.find?_eq_none]
    simp

/-- A replaced value and the order of namespaces cannot be told, but a NaN makes a run differ from
itself. -/
example :
    let age (value : Cbor) : ElementCall := ⟨"person", "age", value⟩
    let card : ElementCall := ⟨"card", "valid", .bool true⟩
    let unknown := Cbor.float ⟨0x7ff8000000000000⟩
    (ofCalls "id" [age .null, card, age (.text "20")] == ofCalls "id" [age (.text "20"), card]) =
        true ∧
      (ofCalls "id" [age unknown] == ofCalls "id" [age unknown]) = false := by
  decide

end MdocClaims
end WalletQuery
