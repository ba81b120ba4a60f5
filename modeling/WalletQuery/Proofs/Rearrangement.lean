import Mathlib.Data.List.Basic
import Mathlib.Data.List.Find
import WalletQuery.Proofs.StoreFailure

/-! Queries of which the credential queries stand in another order. With credential sets, only those
count that an option lists; without, each response moves with its credential query. -/
namespace WalletQuery
variable {ε : Type} {responses others : List Response} {sets : List CredentialSet} {id : String}

/-- An option of one of the sets lists the credential query. -/
def IsListed (sets : List CredentialSet) (id : String) : Prop :=
  ∃ set ∈ sets, ∃ option ∈ set.options.toList, id ∈ option.toList

instance : Decidable (IsListed sets id) :=
  inferInstanceAs (Decidable (∃ set ∈ sets, ∃ option ∈ set.options.toList, id ∈ option.toList))

theorem SetOption.isSatisfied_congr {option : SetOption}
    (same : ∀ id ∈ option.toList,
      responses.filter (·.query.id == id) = others.filter (·.query.id == id)) :
    option.isSatisfied responses = option.isSatisfied others := by
  unfold isSatisfied
  simp only [← List.any_filter]
  rw [Bool.eq_iff_iff, List.all_eq_true, List.all_eq_true]
  exact forall₂_congr fun id mem => by rw [same id mem]

/-- What a set contributes depends on the responses to the listed credential queries alone. -/
theorem CredentialSet.contribution_congr {set : CredentialSet}
    (same : ∀ option ∈ set.options.toList, ∀ id ∈ option.toList,
      responses.filter (·.query.id == id) = others.filter (·.query.id == id)) :
    set.contribution responses = set.contribution others := by
  have first : set.options.toList.find? (·.isSatisfied responses) =
      set.options.toList.find? (·.isSatisfied others) :=
    List.find?_congr fun option mem => SetOption.isSatisfied_congr (same option mem)
  unfold contribution
  rw [first]
  split
  · next option found =>
    have mem := List.mem_of_find?_eq_some found
    have parts : ∀ id ∈ option.toList,
        (responses.filter (·.query.id == id)).map ({ · with set := some set }) =
          (others.filter (·.query.id == id)).map ({ · with set := some set }) :=
      fun id listed => congrArg (List.map _) (same option mem id listed)
    rw [List.flatMap_congr parts]
  · rfl

theorem select_congr (declared : sets ≠ [])
    (same : ∀ id, IsListed sets id →
      responses.filter (·.query.id == id) = others.filter (·.query.id == id)) :
    select responses sets = select others sets := by
  have contributions : sets.mapM (·.contribution responses) = sets.mapM (·.contribution others) :=
    mapM_congr fun set mem => CredentialSet.contribution_congr fun option optional id listed =>
      same id ⟨set, mem, option, optional, listed⟩
  rw [select, select, if_neg (by simpa using declared), if_neg (by simpa using declared),
    contributions]

/-- The credential queries are the same, in any order, but for some that no option lists. -/
def Query.RearrangedTo (query other : Query) : Prop :=
  ∃ kept removed added, query.credentials.toList.Perm (kept ++ removed) ∧
    other.credentials.toList.Perm (kept ++ added) ∧
    ∀ q ∈ removed ++ added, ¬IsListed query.sets q.id

theorem filter_id_eq_nil {queries : List CredentialQuery}
    (unlisted : ∀ q ∈ queries, ¬IsListed sets q.id) (listed : IsListed sets id) :
    queries.filter (·.id == id) = [] := by
  rw [List.filter_eq_nil_iff]
  intro q mem same
  have same : q.id = id := by simpa using same
  exact unlisted q mem (same ▸ listed)

namespace Query
variable {query other : Query}

theorem RearrangedTo.filter_id_eq (h : query.RearrangedTo other)
    (listed : IsListed query.sets id) :
    query.credentials.toList.filter (·.id == id) =
      other.credentials.toList.filter (·.id == id) := by
  obtain ⟨kept, removed, added, before, after, unlisted⟩ := h
  obtain ⟨notRemoved, notAdded⟩ := List.forall_mem_append.1 unlisted
  have left := before.filter (·.id == id)
  have right := after.filter (·.id == id)
  rw [List.filter_append, filter_id_eq_nil notRemoved listed, List.append_nil] at left
  rw [List.filter_append, filter_id_eq_nil notAdded listed, List.append_nil] at right
  exact filter_key_eq_of_perm query.distinct (left.trans right.symm)

theorem RearrangedTo.select_eq (h : query.RearrangedTo other) (declared : query.sets ≠ [])
    (credentials : List Credential) :
    select (query.credentials.toList.map (·.answer credentials)) query.sets =
      select (other.credentials.toList.map (·.answer credentials)) query.sets := by
  refine select_congr declared fun id listed => ?_
  rw [List.filter_map, List.filter_map]
  exact congrArg (List.map _) (h.filter_id_eq listed)

end Query

/-- No call fails. A store of this type is a snapshot, as a call has the same answer whenever it is
made. -/
def Store.NeverFails (store : Store (Except ε)) : Prop := ∀ call, store.attempt call = .ok ()

theorem MemoryStore.neverFails (store : MemoryStore) :
    (store.toStore : Store (Except ε)).NeverFails
  | .list => rfl
  | .lookup _ => rfl

/-- With credential sets the order of the credential queries is of no importance, and so are those
that no option lists. Without, the responses are put in the order of the credential queries. -/
theorem Query.execute_of_rearranged {query other : Query} {store : Store (Except ε)}
    (sets : other.sets = query.sets) (steady : store.NeverFails) :
    (query.sets ≠ [] → query.RearrangedTo other → query.execute store = other.execute store) ∧
    (query.sets = [] → query.credentials.toList.Perm other.credentials.toList →
      ∀ responses, query.execute store = .ok (.ok responses) →
        ∃ answer : CredentialQuery → Response, (∀ q, (answer q).query = q) ∧
          responses = query.credentials.toList.map answer ∧
          other.execute store = .ok (.ok (other.credentials.toList.map answer))) := by
  have before := execute_of_calls fun call (_ : call ∈ query.calls store) => steady call
  have after := execute_of_calls fun call (_ : call ∈ other.calls store) => steady call
  rw [sets] at after
  refine ⟨fun declared rearranged => ?_, fun none perm responses success => ?_⟩
  · rw [before, after, rearranged.select_eq declared]
  · rw [before, none, Except.ok.injEq, select_nil_eq_ok_iff] at success
    obtain ⟨matched, rfl⟩ := success
    refine ⟨(·.answer store.credentials), fun _ => rfl, rfl, ?_⟩
    have matched : ∀ response ∈ other.credentials.toList.map (·.answer store.credentials),
        response.candidates ≠ [] :=
      fun response mem => matched response ((perm.map _).mem_iff.2 mem)
    rw [after, none, select_nil_eq_ok_iff.2 ⟨matched, rfl⟩]

def Query.ofTypes (first : String) (rest : List String) (sets : List CredentialSet)
    (distinct : (((first :: rest).map CredentialQuery.forType).map CredentialQuery.id).Nodup) :
    Query where
  credentials := ⟨.forType first, rest.map .forType⟩
  sets := sets
  distinct := distinct

def MemoryStore.withPassportAndCard : MemoryStore where
  credentials := [.ofType "passport" "p", .ofType "card" "c"]
  distinct := (by decide : ["p", "c"].Nodup)

/-- A badge that no option lists is left out, a diploma that the wallet lacks is put between. -/
theorem execute_rearranged_entrance :
    let store : Store (Except String) := MemoryStore.withPassportAndCard.toStore
    let query := Query.ofTypes "card" ["passport", "badge"] [.discount, .entrance] (by decide)
    let other := Query.ofTypes "passport" ["diploma", "card"] [.discount, .entrance] (by decide)
    let both := Query.ofTypes "card" ["passport"] [] (by decide)
    let turned := Query.ofTypes "passport" ["card"] [] (by decide)
    store.NeverFails ∧ query.RearrangedTo other ∧ query.execute store = other.execute store ∧
      query.execute store = .ok (.ok (Response.entrance ["p"] ["c"])) ∧
      both.credentials.toList.Perm turned.credentials.toList ∧
      both.execute store = .ok (.ok [.ofIds "card" ["c"], .ofIds "passport" ["p"]]) ∧
      ∃ answer : CredentialQuery → Response, (∀ q, (answer q).query = q) ∧
        [.ofIds "card" ["c"], .ofIds "passport" ["p"]] = both.credentials.toList.map answer ∧
        turned.execute store = .ok (.ok (turned.credentials.toList.map answer)) := by
  intro store query other both turned
  have steady : store.NeverFails := MemoryStore.neverFails _
  have unlisted : ∀ q ∈ [CredentialQuery.forType "badge", .forType "diploma"],
      ¬IsListed [.discount, .entrance] q.id := List.forall_iff_forall_mem.1 ⟨by decide, by decide⟩
  have rearranged : query.RearrangedTo other :=
    ⟨[.forType "card", .forType "passport"], [.forType "badge"], [.forType "diploma"], .refl _,
      @List.perm_append_comm _ [_, _] [_], unlisted⟩
  have perm : both.credentials.toList.Perm turned.credentials.toList := .swap ..
  have success : both.execute store =
      .ok (.ok [.ofIds "card" ["c"], .ofIds "passport" ["p"]]) := rfl
  have sets : other.sets = query.sets := rfl
  have noSets : turned.sets = both.sets := rfl
  exact ⟨steady, rearranged, (Query.execute_of_rearranged sets steady).1 nofun rearranged, rfl,
    perm, success, (Query.execute_of_rearranged noSets steady).2 rfl perm _ success⟩

end WalletQuery
