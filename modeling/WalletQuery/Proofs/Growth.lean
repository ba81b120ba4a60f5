import Mathlib.Logic.Relation
import WalletQuery.Matching
import WalletQuery.Proofs.Traversal
import WalletQuery.Store.Memory

/-! Memory stores that grow, by further credentials or by further claims of those that they hold.
Whatever a credential had before, it has after. -/
namespace WalletQuery

/-- One claim is added, under a name that was not there. -/
inductive Claims.Gains : Claims → Claims → Prop
  | claim {claims : SdJwtClaims} {name : String} {value : Json} :
      claims.members.get? name = none → Gains (.sdJwt claims) (.sdJwt (claims.setClaim name value))
  | element {claims : MdocClaims} {nameSpace element : String} {value : Cbor} :
      claims.element? nameSpace element = none →
      Gains (.mdoc claims) (.mdoc (claims.setElement nameSpace element value))

namespace MemoryStore

/-- A credential is inserted anywhere, or one that is there gains a claim. The ids stay distinct, as
those of any store are. -/
inductive GrowthStep : MemoryStore → MemoryStore → Prop
  | insert {before after : MemoryStore} {front back : List Credential} {credential : Credential} :
      before.credentials = front ++ back → after.credentials = front ++ credential :: back →
      GrowthStep before after
  | gain {before after : MemoryStore} {front back : List Credential} {credential : Credential}
      {claims : Claims} : before.credentials = front ++ credential :: back →
      credential.claims.Gains claims →
      after.credentials = front ++ { credential with claims } :: back → GrowthStep before after

def Grows : MemoryStore → MemoryStore → Prop := Relation.ReflTransGen GrowthStep

end MemoryStore

/-- The credential is the same one, of the same type, and every path that selected a value still
selects it. -/
structure Credential.ExtendedBy (old new : Credential) : Prop where
  id : new.id = old.id
  accepts : ∀ constraint : Constraint, constraint.accepts old = true →
    constraint.accepts new = true
  resolve : ∀ path value, old.resolve path = .ok value → new.resolve path = .ok value

namespace Credential

instance : Std.Refl ExtendedBy where
  refl _ := ⟨rfl, fun _ h => h, fun _ _ h => h⟩

instance : IsTrans Credential ExtendedBy where
  trans _ _ _ h k := ⟨k.id.trans h.id, fun constraint accepted => k.accepts constraint
    (h.accepts constraint accepted), fun path value found => k.resolve path value
    (h.resolve path value found)⟩

end Credential

theorem SdJwtClaims.resolve_setClaim {claims : SdJwtClaims} {name : String}
    (fresh : claims.members.get? name = none) (value : Json) {path : List PathStep}
    {selected : Json} (h : claims.resolve path = .ok selected) :
    (claims.setClaim name value).resolve path = .ok selected := by
  unfold resolve at h
  split at h
  · next root rest =>
    split at h
    · next found =>
      have other : root ≠ name := by
        rintro rfl
        rw [fresh] at found
        contradiction
      simp only [resolve, setClaim, Dictionary.get?_insert, if_neg other, found, h]
    · contradiction
  · contradiction

theorem MdocClaims.resolve_setElement {claims : MdocClaims} {nameSpace element : String}
    (fresh : claims.element? nameSpace element = none) (value : Cbor) {path : ClaimPath}
    {selected : Cbor} (h : claims.resolve path = .ok selected) :
    (claims.setElement nameSpace element value).resolve path = .ok selected := by
  unfold resolve at h
  split at h
  · next n e addressed =>
    split at h
    · next found =>
      have other : ¬(n = nameSpace ∧ e = element) := by
        rintro ⟨rfl, rfl⟩
        rw [fresh] at found
        contradiction
      simp only [resolve, addressed, element?_setElement, if_neg other, found, h]
    · contradiction
  · contradiction

theorem Credential.extendedBy_of_gains {credential : Credential} {claims : Claims}
    (h : credential.claims.Gains claims) : credential.ExtendedBy { credential with claims } := by
  obtain ⟨id, name, before⟩ := credential
  cases h with
  | claim fresh =>
    refine ⟨rfl, fun constraint accepted => ?_, fun path value found => ?_⟩
    · cases constraint with
      | vct values => exact accepted
      | _ => contradiction
    · obtain ⟨selected, kept, rfl⟩ := Except.map_eq_ok_iff.1 found
      exact Except.map_eq_ok_iff.2 ⟨selected, SdJwtClaims.resolve_setClaim fresh _ kept, rfl⟩
  | element fresh =>
    refine ⟨rfl, fun constraint accepted => ?_, fun path value found => ?_⟩
    · cases constraint with
      | doctype value => exact accepted
      | _ => contradiction
    · obtain ⟨selected, kept, rfl⟩ := Except.map_eq_ok_iff.1 found
      exact Except.map_eq_ok_iff.2 ⟨selected, MdocClaims.resolve_setElement fresh _ kept, rfl⟩

namespace MemoryStore

theorem GrowthStep.extends {before after : MemoryStore} (h : GrowthStep before after) :
    List.SublistForall₂ Credential.ExtendedBy before.credentials after.credentials := by
  cases h with
  | @insert front back credential hb ha =>
    rw [hb, ha]
    exact ((List.Sublist.refl front).append (List.sublist_cons_self credential back)).sublistForall₂
  | @gain front back credential claims hb gains ha =>
    rw [hb, ha]
    have same (others : List Credential) : List.Forall₂ Credential.ExtendedBy others others :=
      List.forall₂_refl others
    have extended : List.Forall₂ Credential.ExtendedBy (front ++ credential :: back)
        (front ++ { credential with claims } :: back) :=
      List.rel_append (same front) (.cons (Credential.extendedBy_of_gains gains) (same back))
    exact List.sublistForall₂_iff.2 ⟨_, extended, List.Sublist.refl _⟩

/-- The credentials of a store are still there when it has grown, in the same order. -/
theorem Grows.extends {before after : MemoryStore} (h : before.Grows after) :
    List.SublistForall₂ Credential.ExtendedBy before.credentials after.credentials := by
  induction h with
  | refl => exact Std.Refl.refl before.credentials
  | tail _ step ih => exact IsTrans.trans _ _ _ ih step.extends

end MemoryStore
end WalletQuery
