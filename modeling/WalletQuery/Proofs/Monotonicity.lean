import WalletQuery.Proofs.Execution
import WalletQuery.Proofs.Growth
import WalletQuery.Proofs.Matching

/-! Queries on a store that has grown: what was answered still is, and no choice among claim sets or
options gets worse. -/
namespace WalletQuery

/-- The position of the claim set that a match with the credential discloses. -/
def CredentialQuery.claimSetIndex? (query : CredentialQuery) (credential : Credential) :
    Option Nat :=
  query.claimSets.findIdx? fun set => (credential.discloseSet? query set.toList).isSome

namespace Candidate

def UsesClaimSet (query : CredentialQuery) (candidate : Candidate) (index : Nat) : Prop :=
  query.claimSetIndex? candidate.credential = some index ∧
    ∃ set, query.claimSets[index]? = some set ∧
      candidate.credential.discloseSet? query set.toList = some candidate.disclosures

/-- The same credential is a candidate still, with the same disclosures, or with those of a claim
set that is preferred at least as much. -/
structure KeptAs (query : CredentialQuery) (old new : Candidate) : Prop where
  id : new.credential.id = old.credential.id
  disclosures : query.claimSets = [] → new.disclosures = old.disclosures
  claimSet : query.claimSets ≠ [] →
    ∃ i j, j ≤ i ∧ old.UsesClaimSet query i ∧ new.UsesClaimSet query j

end Candidate

/-- The candidates are kept in their order, among others that are new. -/
structure Response.KeptAs (old new : Response) : Prop where
  query : new.query = old.query
  candidates : List.SublistForall₂ (Candidate.KeptAs old.query) old.candidates new.candidates

/-- What a set contributes to the selection is that of an option that is preferred at least as much.
A set of which no option was served may contribute anything that it can. -/
inductive CredentialSet.KeptAs (before after : List Response) (set : CredentialSet) :
    List Response → List Response → Prop
  | served {i j : Nat} {part later : List Response} : j ≤ i → set.UsesOption before i part →
      set.UsesOption after j later → KeptAs before after set part later
  | unserved {later : List Response} : ¬set.IsServed before → set.Contributes after later →
      KeptAs before after set [] later

namespace Credential.ExtendedBy
variable {old new : Credential} (h : old.ExtendedBy new)
include h

theorem discloses {disclosure : Disclosure} (held : old.Discloses disclosure) :
    new.Discloses disclosure :=
  ⟨h.resolve _ _ held.1, held.2⟩

theorem discloseAll? {claims : List Claim} {disclosures : List Disclosure}
    (disclosed : old.discloseAll? claims = some disclosures) :
    new.discloseAll? claims = some disclosures := by
  obtain ⟨all, held⟩ := discloseAll?_eq_some_iff.1 disclosed
  exact discloseAll?_eq_some_iff.2 ⟨all, fun d mem => h.discloses (held d mem)⟩

theorem discloseSet? {query : CredentialQuery} {ids : List String} {disclosures : List Disclosure}
    (disclosed : old.discloseSet? query ids = some disclosures) :
    new.discloseSet? query ids = some disclosures := by
  obtain ⟨ids, held⟩ := discloseSet?_eq_some_iff.1 disclosed
  exact discloseSet?_eq_some_iff.2
    ⟨ids, fun d mem => ⟨(held d mem).1, h.discloses (held d mem).2⟩⟩

end Credential.ExtendedBy

namespace CredentialQuery
variable {query : CredentialQuery}

theorem match?_eq_some_iff_index (declared : query.claimSets ≠ []) {credential : Credential}
    {disclosures : List Disclosure} :
    query.match? credential = some disclosures ↔
      ∃ index, (Candidate.mk credential disclosures).UsesClaimSet query index := by
  rw [match?, if_neg (by simpa using declared), findSome?_eq_some_iff_findIdx?]
  simp only [Candidate.UsesClaimSet, claimSetIndex?, exists_and_left]

theorem exists_usesClaimSet {credential : Credential} {index : Nat}
    (h : query.claimSetIndex? credential = some index) :
    ∃ disclosures, (Candidate.mk credential disclosures).UsesClaimSet query index := by
  obtain ⟨inside, disclosed, -⟩ := List.findIdx?_eq_some_iff_getElem.1 h
  obtain ⟨disclosures, disclosed⟩ := Option.isSome_iff_exists.1 disclosed
  exact ⟨disclosures, h, _, List.getElem?_eq_getElem inside, disclosed⟩

theorem claimSetIndex?_of_extendedBy {old new : Credential} (h : old.ExtendedBy new) {i : Nat}
    (found : query.claimSetIndex? old = some i) :
    ∃ j ≤ i, query.claimSetIndex? new = some j := by
  refine findIdx?_mono (fun set _ disclosed => ?_) found
  obtain ⟨disclosures, disclosed⟩ := Option.isSome_iff_exists.1 disclosed
  rw [h.discloseSet? disclosed]
  rfl

theorem candidate?_of_extendedBy {old new : Credential} (h : old.ExtendedBy new)
    {candidate : Candidate} (found : query.candidate? old = some candidate) :
    ∃ kept, query.candidate? new = some kept ∧ candidate.KeptAs query kept := by
  obtain ⟨rfl, accepted, matched⟩ := candidate?_eq_some_iff.1 found
  have accepted := h.accepts query.constraint accepted
  by_cases declared : query.claimSets = []
  · have all (credential : Credential) :
        query.match? credential = credential.discloseAll? query.claims.toList := by
      rw [match?, if_pos (by simp [declared])]
    rw [all] at matched
    have kept : query.match? new = some candidate.disclosures := by
      rw [all, h.discloseAll? matched]
    exact ⟨⟨new, _⟩, candidate?_eq_some_iff.2 ⟨rfl, accepted, kept⟩, h.id, fun _ => rfl,
      fun some => absurd declared some⟩
  · obtain ⟨i, used⟩ := (match?_eq_some_iff_index declared).1 matched
    obtain ⟨j, le, found⟩ := claimSetIndex?_of_extendedBy h used.1
    obtain ⟨disclosures, uses⟩ := exists_usesClaimSet found
    have kept : query.match? new = some disclosures :=
      (match?_eq_some_iff_index declared).2 ⟨j, uses⟩
    exact ⟨⟨new, disclosures⟩, candidate?_eq_some_iff.2 ⟨rfl, accepted, kept⟩, h.id,
      fun none => absurd none declared, fun _ => ⟨i, j, le, used, uses⟩⟩

theorem answer_of_extendedBy {old new : List Credential}
    (h : List.SublistForall₂ Credential.ExtendedBy old new) :
    (query.answer old).KeptAs (query.answer new) where
  query := rfl
  candidates := sublistForall₂_filterMap h fun _ _ extended _ found =>
    candidate?_of_extendedBy extended found

end CredentialQuery

theorem Response.KeptAs.candidates_ne_nil {old new : Response} (kept : old.KeptAs new)
    (h : old.candidates ≠ []) : new.candidates ≠ [] := by
  intro none
  have sublist := kept.candidates
  rw [none] at sublist
  generalize old.candidates = candidates at sublist h
  cases sublist
  exact h rfl

section
variable {old new : List Response} (kept : List.Forall₂ Response.KeptAs old new)
include kept

theorem isAnswered_of_kept {id : String} (h : IsAnswered old id) : IsAnswered new id := by
  obtain ⟨response, mem, same, candidates⟩ := h
  obtain ⟨later, mem, kept⟩ := exists_of_mem_left kept mem
  exact ⟨later, mem, by rw [kept.query, same], kept.candidates_ne_nil candidates⟩

theorem isServed_of_kept {option : SetOption} (h : option.IsServed old) : option.IsServed new :=
  fun id mem => isAnswered_of_kept kept (h id mem)

theorem exists_usesOption_of_kept {set : CredentialSet} {i : Nat} {part later : List Response}
    (uses : set.UsesOption old i part) (contributes : set.Contributes new later) :
    ∃ j ≤ i, set.UsesOption new j later := by
  obtain ⟨option, found, served, -⟩ := uses.option
  have served := isServed_of_kept kept served
  obtain ⟨inside, same⟩ := List.getElem?_eq_some_iff.1 found
  rcases CredentialSet.contributes_iff_usesOption.1 contributes with ⟨j, uses⟩ | ⟨unserved, -⟩
  · refine ⟨j, ?_, uses⟩
    by_contra earlier
    have mem : option ∈ set.options.toList.take j :=
      List.mem_take_iff_getElem.2 ⟨i, by omega, same⟩
    exact uses.unserved option mem served
  · exact absurd ⟨option, List.mem_of_getElem? found, served⟩ unserved

theorem keptAs_of_contributes {set : CredentialSet} {part later : List Response}
    (before : set.Contributes old part) (after : set.Contributes new later) :
    set.KeptAs old new part later := by
  rcases CredentialSet.contributes_iff_usesOption.1 before with ⟨i, uses⟩ | ⟨unserved, rfl⟩
  · obtain ⟨j, le, still⟩ := exists_usesOption_of_kept kept uses after
    exact .served le uses still
  · exact .unserved unserved after

theorem exists_select_of_kept {sets : List CredentialSet}
    (h : ∃ selected, select old sets = .ok selected) :
    ∃ selected, select new sets = .ok selected := by
  obtain ⟨selected, h⟩ := h
  by_cases declared : sets = []
  · subst declared
    obtain ⟨matched, -⟩ := select_nil_eq_ok_iff.1 h
    refine ⟨new, select_nil_eq_ok_iff.2 ⟨fun later mem => ?_, rfl⟩⟩
    obtain ⟨response, mem, kept⟩ := exists_of_mem_right kept mem
    exact kept.candidates_ne_nil (matched response mem)
  · cases later : select new sets with
    | ok selected => exact ⟨selected, rfl⟩
    | error error =>
      -- a required set that is missed now would have been missed before
      obtain ⟨set, first, -⟩ := (select_eq_error_iff declared).1 later
      obtain ⟨required, unserved⟩ := first.1
      obtain ⟨parts, contributions, -⟩ := (select_eq_ok_iff declared).1 h
      obtain ⟨part, -, contribution⟩ := exists_of_mem_left contributions first.mem
      have missing : set.IsMissing old := ⟨required, fun ⟨option, mem, served⟩ =>
        unserved ⟨option, mem, isServed_of_kept kept served⟩⟩
      rw [CredentialSet.contribution_eq_error_iff.2 ⟨missing, rfl⟩] at contribution
      contradiction

end

/-- A query that a store can answer can be answered when the store has grown. Each candidate is
kept, and each satisfied credential set is satisfied by an option that is preferred at least as
much. -/
theorem Query.outcome_of_grows {query : Query} {before after : MemoryStore}
    (grows : before.Grows after) {old : List Response} (success : query.outcome before = .ok old) :
    ∃ new, query.outcome after = .ok new ∧
      List.Forall₂ Response.KeptAs (query.evaluated before) (query.evaluated after) ∧
      (query.sets = [] → old = query.evaluated before ∧ new = query.evaluated after) ∧
      (query.sets ≠ [] → ∃ part later : CredentialSet → List Response,
        old = query.sets.flatMap part ∧ new = query.sets.flatMap later ∧
        ∀ set ∈ query.sets, set.contribution (query.evaluated before) = .ok (part set) ∧
          set.contribution (query.evaluated after) = .ok (later set) ∧
          set.KeptAs (query.evaluated before) (query.evaluated after) (part set) (later set)) := by
  have kept : List.Forall₂ Response.KeptAs (query.evaluated before) (query.evaluated after) := by
    rw [evaluated_eq_map, evaluated_eq_map, List.forall₂_map_left_iff, List.forall₂_map_right_iff,
      List.forall₂_same]
    exact fun q _ => q.answer_of_extendedBy grows.extends
  rw [outcome_eq_select_evaluated] at success ⊢
  obtain ⟨new, success'⟩ := exists_select_of_kept kept ⟨old, success⟩
  refine ⟨new, success', kept, fun none => ?_, fun declared => ?_⟩
  · rw [none] at success success'
    exact ⟨(select_nil_eq_ok_iff.1 success).2.symm, (select_nil_eq_ok_iff.1 success').2.symm⟩
  · obtain ⟨part, joined, contributions⟩ := exists_flatMap_of_select declared success
    obtain ⟨later, joined', contributions'⟩ := exists_flatMap_of_select declared success'
    refine ⟨part, later, joined, joined', fun set mem =>
      ⟨contributions set mem, contributions' set mem, keptAs_of_contributes kept ?_ ?_⟩⟩
    · exact CredentialSet.contributes_of_contribution (query.nodup_ids_evaluated before)
        (contributions set mem)
    · exact CredentialSet.contributes_of_contribution (query.nodup_ids_evaluated after)
        (contributions' set mem)

def Claim.name : Claim where
  id := some "name"
  path := ⟨.singleton (.key "name")⟩

/-- Asks for a card, of which the name is preferred to the country. -/
def CredentialQuery.forCard : CredentialQuery where
  id := "card"
  format := .sdJwtVc
  constraint := .vct (.singleton "card")
  claims := ⟨.country, [.name]⟩
  claimSets := [.singleton "name", .singleton "country"]
  index := .ofList [("country", 0), ("name", 1)]
  applies := rfl
  indexed := rfl

def Query.cardAndTicket : Query where
  credentials := ⟨.forCard, [.forType "ticket"]⟩
  sets := [.entrance]
  distinct := (by decide : ["card", "ticket"].Nodup)

def MemoryStore.withCard : MemoryStore := ⟨[.ofType "card" "a"], List.nodup_singleton "a"⟩

/-- A ticket is put before the card, and the card gains a name. -/
def MemoryStore.withTicketAndName : MemoryStore where
  credentials := [.ofType "ticket" "b",
    { id := "a"
      claims := .sdJwt ⟨"card", .ofList [("country", .str "AT"), ("name", .str "Eva")]⟩ }]
  distinct := (by decide : ["b", "a"].Nodup)

/-- The entrance by a card alone gives way to the one by a card and a ticket. -/
theorem outcome_entrance_of_grows :
    let query := Query.cardAndTicket
    MemoryStore.withCard.Grows .withTicketAndName ∧
      ∃ old new, query.outcome .withCard = .ok old ∧ query.outcome .withTicketAndName = .ok new ∧
        old.map (·.query.id) = ["card"] ∧ new.map (·.query.id) = ["card", "ticket"] ∧
        ∃ i j, j ≤ i ∧ CredentialSet.entrance.UsesOption (query.evaluated .withCard) i old ∧
          CredentialSet.entrance.UsesOption (query.evaluated .withTicketAndName) j new := by
  intro query
  let middle : MemoryStore :=
    ⟨[.ofType "ticket" "b", .ofType "card" "a"], (by decide : ["b", "a"].Nodup)⟩
  have ticket : MemoryStore.GrowthStep .withCard middle :=
    @MemoryStore.GrowthStep.insert _ _ [] [.ofType "card" "a"] _ rfl rfl
  have gains : (Credential.ofType "card" "a").claims.Gains _ :=
    @Claims.Gains.claim _ "name" (.str "Eva") rfl
  have name : MemoryStore.GrowthStep middle .withTicketAndName :=
    @MemoryStore.GrowthStep.gain _ _ [.ofType "ticket" "b"] [] _ _ rfl gains rfl
  have grows : MemoryStore.withCard.Grows .withTicketAndName :=
    (Relation.ReflTransGen.single ticket).tail name
  have success : query.outcome .withCard =
      .ok [{ CredentialQuery.forCard.answer [.ofType "card" "a"] with set := some .entrance }] :=
    rfl
  have ids : (·.map (·.query.id)) <$> query.outcome .withTicketAndName = .ok ["card", "ticket"] :=
    rfl
  obtain ⟨new, success', -, -, sets⟩ := Query.outcome_of_grows grows success
  obtain ⟨part, later, joined, joined', kept⟩ := sets nofun
  have joined : _ = part .entrance := joined.trans (List.append_nil _)
  have joined' : new = later .entrance := joined'.trans (List.append_nil _)
  rw [success'] at ids
  obtain ⟨-, -, kept⟩ := kept .entrance List.mem_cons_self
  rw [← joined, ← joined'] at kept
  refine ⟨grows, _, new, success, success', rfl, Except.ok.inj ids, ?_⟩
  cases kept with
  | served le uses uses' => exact ⟨_, _, le, uses, uses'⟩

end WalletQuery
