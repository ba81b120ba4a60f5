import WalletQuery.Matching
import WalletQuery.Proofs.Dictionary
import WalletQuery.Proofs.Traversal

/-! Places in the claims of a credential, and claims that agree but for what stands at one place. A
path that avoids the place selects the same from both, or fails in the same way. -/
namespace WalletQuery

/-- One step to a place in a JSON value. -/
inductive PlaceStep where
  | key (name : String)
  | index (position : Nat)

/-- Where a credential may be changed. -/
inductive Location where
  /-- A member of an object in an SD-JWT credential. -/
  | member (place : List PlaceStep)
  /-- A data element of an mdoc. -/
  | element (nameSpace element : String)

/-- The step of a path selects something else; only a wildcard selects all the items of an array. -/
def PathStep.Misses : PathStep → PlaceStep → Prop
  | key name, .key other => name ≠ other
  | key _, .index _ => True
  | index _, .key _ => True
  | index position, .index other => position.toNat ≠ other
  | wildcard, .key _ => True
  | wildcard, .index _ => False

theorem PathStep.eq_key_of_not_misses {step : PathStep} {name : String}
    (h : ¬step.Misses (.key name)) : step = .key name := by
  cases step with
  | key other => exact congrArg PathStep.key (Decidable.of_not_not h)
  | index position => exact absurd trivial h
  | wildcard => exact absurd trivial h

/-- At some position the path selects something else than what leads to the place. -/
def Avoids (path : List PathStep) (place : List PlaceStep) : Prop :=
  ∃ (i : Nat) (step : PathStep) (other : PlaceStep),
    path[i]? = some step ∧ place[i]? = some other ∧ step.Misses other

def ClaimPath.Avoids (path : ClaimPath) : Location → Prop
  | .member place => WalletQuery.Avoids path.toList place
  | .element nameSpace element => path.toList ≠ [.key nameSpace, .key element]

theorem not_avoids_nil {path : List PathStep} : ¬Avoids path [] := by
  intro h
  obtain ⟨i, _, other, -, found, -⟩ := h
  simp at found

theorem avoids_cons_iff {path : List PathStep} {other : PlaceStep} {place : List PlaceStep} :
    Avoids path (other :: place) ↔
      ∃ step rest, path = step :: rest ∧ (step.Misses other ∨ Avoids rest place) := by
  constructor
  · intro h
    obtain ⟨i, step, other, inPath, inPlace, misses⟩ := h
    cases path with
    | nil => simp at inPath
    | cons first rest =>
      refine ⟨first, rest, rfl, ?_⟩
      cases i with
      | zero =>
        obtain rfl := Option.some.inj inPath
        obtain rfl := Option.some.inj inPlace
        exact .inl misses
      | succ i => exact .inr ⟨i, step, other, inPath, inPlace, misses⟩
  · intro h
    obtain ⟨step, rest, rfl, misses | avoids⟩ := h
    · exact ⟨0, step, other, rfl, rfl, misses⟩
    · obtain ⟨i, avoids⟩ := avoids
      exact ⟨i + 1, avoids⟩

namespace Json

/-- The values are the same but for the member at the place, which may be missing from either. -/
inductive AgreeBut : List PlaceStep → Json → Json → Prop
  | member {name : String} {before after : List (String × Json)} :
      (∀ other, other ≠ name → before.lookup other = after.lookup other) →
      AgreeBut [.key name] (obj before) (obj after)
  | key {name : String} {place : List PlaceStep} {before after : List (String × Json)}
      {old new : Json} : before.lookup name = some old → after.lookup name = some new →
      (∀ other, other ≠ name → before.lookup other = after.lookup other) →
      AgreeBut place old new → AgreeBut (.key name :: place) (obj before) (obj after)
  | index {position : Nat} {place : List PlaceStep} {items : List Json} {old new : Json} :
      items[position]? = some old → AgreeBut place old new →
      AgreeBut (.index position :: place) (arr items) (arr (items.set position new))

theorem agreeBut_erase (name : String) (members : List (String × Json)) :
    AgreeBut [.key name] (obj members) (obj (Entries.erase name members)) := by
  refine .member fun other ne => ?_
  rw [Entries.lookup_erase, if_neg ne]

/-- A step that misses the name selects the same from objects that agree on all other names. -/
theorem select_obj_eq_of_misses {name : String} {before after : List (String × Json)}
    (agree : ∀ other, other ≠ name → before.lookup other = after.lookup other) {step : PathStep}
    (misses : step.Misses (.key name)) (rest : List PathStep) :
    (obj before).select (step :: rest) = (obj after).select (step :: rest) := by
  cases step with
  | key other =>
    have same := agree other misses
    simp only [select, same]
  | index position => rfl
  | wildcard => rfl

theorem AgreeBut.select_eq {place : List PlaceStep} {before after : Json}
    (agree : AgreeBut place before after) {path : List PathStep} (avoids : Avoids path place) :
    before.select path = after.select path := by
  induction agree generalizing path with
  | member others =>
    obtain ⟨step, rest, rfl, misses | avoids⟩ := avoids_cons_iff.1 avoids
    · exact select_obj_eq_of_misses others misses rest
    · exact absurd avoids not_avoids_nil
  | @key name place before after old new found found' others inner ih =>
    obtain ⟨step, rest, rfl, here⟩ := avoids_cons_iff.1 avoids
    by_cases misses : step.Misses (.key name)
    · exact select_obj_eq_of_misses others misses rest
    · obtain rfl := PathStep.eq_key_of_not_misses misses
      simp only [select, found, found', ih (here.resolve_left misses)]
  | @index position place items old new found inner ih =>
    obtain ⟨step, rest, rfl, here⟩ := avoids_cons_iff.1 avoids
    cases step with
    | key name => rfl
    | index other =>
      by_cases same : position = other.toNat
      · subst same
        have avoids : Avoids rest place := here.resolve_left fun misses => misses rfl
        have replaced : (items.set other.toNat new)[other.toNat]? = some new := by
          rw [List.getElem?_set_self (List.getElem?_eq_some_iff.1 found).1]
        simp only [select, found, replaced, ih avoids]
      · simp only [select, List.getElem?_set_ne same]
    | wildcard =>
      -- the changed item is among those that are selected, and gives the same as before
      have avoids : Avoids rest place := here.resolve_left id
      simp only [select, mapM_set_eq found (ih avoids)]

end Json

/-- The claims are of one type, and the same but for what stands at the location. -/
inductive Claims.AgreeBut : Location → Claims → Claims → Prop
  | member {place : List PlaceStep} {vct : String} {before after : Dictionary Json} :
      Json.AgreeBut place (.obj before.entries) (.obj after.entries) →
      AgreeBut (.member place) (.sdJwt ⟨vct, before⟩) (.sdJwt ⟨vct, after⟩)
  | element {nameSpace element : String} {before after : MdocClaims} :
      before.doctype = after.doctype →
      (∀ n e, ¬(n = nameSpace ∧ e = element) → before.element? n e = after.element? n e) →
      AgreeBut (.element nameSpace element) (.mdoc before) (.mdoc after)

structure Credential.AgreeBut (location : Location) (old new : Credential) : Prop where
  id : old.id = new.id
  claims : old.claims.AgreeBut location new.claims

theorem SdJwtClaims.resolve_key (claims : SdJwtClaims) (root : String) (rest : List PathStep) :
    claims.resolve (.key root :: rest) =
      (Json.obj claims.members.entries).select (.key root :: rest) := rfl

theorem SdJwtClaims.resolve_eq_of_agreeBut {place : List PlaceStep} {before after : SdJwtClaims}
    (agree : Json.AgreeBut place (.obj before.members.entries) (.obj after.members.entries))
    {path : List PathStep} (avoids : Avoids path place) :
    before.resolve path = after.resolve path := by
  cases path with
  | nil => rfl
  | cons step rest =>
    cases step with
    | key root => rw [resolve_key, resolve_key, agree.select_eq avoids]
    | index position => rfl
    | wildcard => rfl

theorem ClaimPath.namespaceAndElement_eq_some_iff {path : ClaimPath} {nameSpace element : String} :
    path.namespaceAndElement = some (nameSpace, element) ↔
      path.toList = [.key nameSpace, .key element] := by
  unfold namespaceAndElement
  split
  · next n e same => simp [same]
  · next other => exact ⟨nofun, fun same => absurd same (other nameSpace element)⟩

theorem Credential.AgreeBut.resolve_eq {location : Location} {old new : Credential}
    (agree : old.AgreeBut location new) {path : ClaimPath} (avoids : path.Avoids location) :
    old.resolve path = new.resolve path := by
  obtain ⟨_, _, before⟩ := old
  obtain ⟨_, _, after⟩ := new
  obtain ⟨rfl, agree⟩ := agree
  cases agree with
  | member agree =>
    exact congrArg (ClaimValue.json <$> ·) (SdJwtClaims.resolve_eq_of_agreeBut agree avoids)
  | @element nameSpace element _ _ _ others =>
    refine congrArg (ClaimValue.mdoc <$> ·) ?_
    unfold MdocClaims.resolve
    split
    · next n e addressed =>
      have other : ¬(n = nameSpace ∧ e = element) := by
        rintro ⟨rfl, rfl⟩
        exact avoids (ClaimPath.namespaceAndElement_eq_some_iff.1 addressed)
      rw [others n e other]
    · rfl

theorem Constraint.accepts_eq_of_agreeBut {location : Location} {old new : Credential}
    (agree : old.AgreeBut location new) (constraint : Constraint) :
    constraint.accepts old = constraint.accepts new := by
  obtain ⟨_, _, before⟩ := old
  obtain ⟨_, _, after⟩ := new
  obtain ⟨-, agree⟩ := agree
  cases agree with
  | member _ => cases constraint <;> rfl
  | element doctype _ => cases constraint <;> simp [accepts, doctype]

end WalletQuery
