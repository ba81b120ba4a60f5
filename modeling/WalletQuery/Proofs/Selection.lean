import Mathlib.Data.List.Nodup
import WalletQuery.Execution
import WalletQuery.Proofs.Traversal

/-! Selection as a relation between responses, credential sets and outcomes. On responses with
distinct query ids, `select` computes exactly the outcome that the relation allows. -/
namespace WalletQuery
variable {responses : List Response}

/-- Some response to the credential query has a candidate. -/
def IsAnswered (responses : List Response) (id : String) : Prop :=
  ∃ response ∈ responses, response.query.id = id ∧ response.candidates ≠ []

def SetOption.IsServed (responses : List Response) (option : SetOption) : Prop :=
  ∀ id ∈ option.toList, IsAnswered responses id

theorem Response.isMatched_iff {response : Response} :
    response.isMatched = true ↔ response.candidates ≠ [] := by
  simp [Response.isMatched]

theorem Response.not_isMatched_iff {response : Response} :
    (!response.isMatched) = true ↔ response.candidates = [] := by
  simp [Response.isMatched]

theorem SetOption.isSatisfied_iff {option : SetOption} :
    option.isSatisfied responses = true ↔ option.IsServed responses := by
  simp [SetOption.isSatisfied, SetOption.IsServed, IsAnswered, Response.isMatched_iff]

namespace CredentialSet

def IsServed (responses : List Response) (set : CredentialSet) : Prop :=
  ∃ option ∈ set.options.toList, option.IsServed responses

/-- The set makes the selection fail. -/
def IsMissing (responses : List Response) (set : CredentialSet) : Prop :=
  set.required = true ∧ ¬set.IsServed responses

/-- `selected` is the response to the credential query, marked with the set. -/
def Marks (responses : List Response) (set : CredentialSet) (id : String) (selected : Response) :
    Prop :=
  ∃ response ∈ responses, response.query.id = id ∧ selected.query = response.query ∧
    selected.candidates = response.candidates ∧ selected.set = some set

/-- What a set adds to the selection: one response for each id of its first served option. -/
inductive Contributes (responses : List Response) (set : CredentialSet) : List Response → Prop
  | chosen {option : SetOption} {selected : List Response} :
      IsFirst (SetOption.IsServed responses) set.options.toList option →
      List.Forall₂ (set.Marks responses) option.toList selected →
      Contributes responses set selected
  | nothing : ¬set.IsServed responses → Contributes responses set []

/-- The part is what the set contributes by its option at the index: one response for each id. No
option before it is served. -/
structure UsesOption (responses : List Response) (set : CredentialSet) (index : Nat)
    (part : List Response) : Prop where
  option : ∃ option, set.options.toList[index]? = some option ∧ option.IsServed responses ∧
    List.Forall₂ (set.Marks responses) option.toList part
  unserved : ∀ option ∈ set.options.toList.take index, ¬option.IsServed responses

end CredentialSet

/-- The outcomes of a selection. -/
inductive Selection (responses : List Response) :
    List CredentialSet → Except SelectionError (List Response) → Prop
  | unchanged : (∀ response ∈ responses, response.candidates ≠ []) →
      Selection responses [] (.ok responses)
  | unmatched {response : Response} : IsFirst (·.candidates = []) responses response →
      Selection responses [] (.error (.noMatch response.query.id))
  | missing {sets : List CredentialSet} {set : CredentialSet} :
      IsFirst (CredentialSet.IsMissing responses) sets set →
      Selection responses sets (.error (.unsatisfiedSet set.purpose))
  | chosen {sets : List CredentialSet} {parts : List (List Response)} : sets ≠ [] →
      (∀ set ∈ sets, ¬set.IsMissing responses) →
      List.Forall₂ (CredentialSet.Contributes responses) sets parts →
      Selection responses sets (.ok parts.flatten)

namespace CredentialSet

theorem marks_iff {set : CredentialSet} {id : String} {selected : Response} :
    set.Marks responses id selected ↔
      ∃ response ∈ responses, response.query.id = id ∧
        selected = { response with set := some set } := by
  constructor
  · intro h
    obtain ⟨response, hr, hid, hq, hc, hs⟩ := h
    obtain ⟨query, tag, candidates⟩ := selected
    obtain rfl : query = response.query := hq
    obtain rfl : candidates = response.candidates := hc
    obtain rfl : tag = some set := hs
    exact ⟨response, hr, hid, rfl⟩
  · intro h
    obtain ⟨response, hr, hid, rfl⟩ := h
    exact ⟨response, hr, hid, rfl, rfl, rfl⟩

/-- The responses that are copied for a list of ids are one for each id. -/
theorem flatMap_eq_iff_marks (distinct : (responses.map (·.query.id)).Nodup) {set : CredentialSet}
    {ids : List String} (answered : ∀ id ∈ ids, IsAnswered responses id)
    {selected : List Response} :
    (ids.flatMap fun id => (responses.filter (·.query.id == id)).map ({ · with set := some set })) =
      selected ↔ List.Forall₂ (set.Marks responses) ids selected := by
  -- ids may repeat, so each copy is found anew among all the responses
  induction ids generalizing selected with
  | nil => simp [eq_comm]
  | cons id ids ih =>
    obtain ⟨response, hr, rfl, -⟩ := answered _ (List.mem_cons_self ..)
    have ih := @ih fun id hid => answered id (List.mem_cons_of_mem _ hid)
    rw [List.flatMap_cons, filter_key_eq_singleton distinct hr, List.forall₂_cons_left_iff]
    constructor
    · rintro rfl
      exact ⟨_, _, marks_iff.2 ⟨response, hr, rfl, rfl⟩, ih.1 rfl, rfl⟩
    · intro h
      obtain ⟨first, rest, hf, hrest, rfl⟩ := h
      obtain ⟨other, ho, hid, rfl⟩ := marks_iff.1 hf
      have same : other = response := List.inj_on_of_nodup_map distinct ho hr hid
      simp [same, ih.2 hrest]

theorem find?_options_eq_none_iff {set : CredentialSet} :
    set.options.toList.find? (·.isSatisfied responses) = none ↔ ¬set.IsServed responses := by
  simp only [List.find?_eq_none, SetOption.isSatisfied_iff, IsServed]
  grind

theorem contribution_eq_error_iff {set : CredentialSet} {error : SelectionError} :
    set.contribution responses = .error error ↔
      set.IsMissing responses ∧ error = .unsatisfiedSet set.purpose := by
  unfold contribution
  split
  · next option h =>
    have first := find?_eq_some_iff_isFirst.1 h
    have served : set.IsServed responses := ⟨option, first.mem, SetOption.isSatisfied_iff.1 first.1⟩
    simp [IsMissing, served]
  · next h =>
    have unserved := find?_options_eq_none_iff.1 h
    by_cases required : set.required = true <;> simp [IsMissing, unserved, required, eq_comm]

theorem contribution_eq_ok_iff (distinct : (responses.map (·.query.id)).Nodup)
    {set : CredentialSet} {selected : List Response} :
    set.contribution responses = .ok selected ↔
      ¬set.IsMissing responses ∧ set.Contributes responses selected := by
  unfold contribution
  split
  · next option h =>
    have first : IsFirst (SetOption.IsServed responses) set.options.toList option := by
      simpa only [SetOption.isSatisfied_iff] using find?_eq_some_iff_isFirst.1 h
    have served : set.IsServed responses := ⟨option, first.mem, first.1⟩
    rw [Except.ok.injEq, flatMap_eq_iff_marks distinct first.1]
    constructor
    · intro marks
      exact ⟨fun missing => missing.2 served, .chosen first marks⟩
    · rintro ⟨-, ⟨first', marks⟩ | unserved⟩
      · rwa [first.eq first']
      · exact absurd served unserved
  · next h =>
    have unserved := find?_options_eq_none_iff.1 h
    constructor
    · intro h
      split at h
      · contradiction
      · next optional =>
        cases h
        exact ⟨fun missing => optional missing.1, .nothing unserved⟩
    · rintro ⟨present, ⟨first, -⟩ | -⟩
      · exact absurd ⟨_, first.mem, first.1⟩ unserved
      · have optional : ¬set.required = true := fun required => present ⟨required, unserved⟩
        simp [optional]

theorem contributes_of_contribution (distinct : (responses.map (·.query.id)).Nodup)
    {set : CredentialSet} {part : List Response} (h : set.contribution responses = .ok part) :
    set.Contributes responses part :=
  ((contribution_eq_ok_iff distinct).1 h).2

/-- What a set contributes is that of an option, unless no option is served. -/
theorem contributes_iff_usesOption {set : CredentialSet} {part : List Response} :
    set.Contributes responses part ↔
      (∃ index, set.UsesOption responses index part) ∨ (¬set.IsServed responses ∧ part = []) := by
  constructor
  · rintro (⟨⟨served, front, back, options, unserved⟩, marks⟩ | unserved)
    · exact .inl ⟨front.length, ⟨_, by simp [options], served, marks⟩, by simpa [options]⟩
    · exact .inr ⟨unserved, rfl⟩
  · rintro (⟨index, ⟨option, found, served, marks⟩, unserved⟩ | ⟨unserved, rfl⟩)
    · obtain ⟨inside, rfl⟩ := List.getElem?_eq_some_iff.1 found
      refine .chosen ⟨served, set.options.toList.take index, set.options.toList.drop (index + 1),
        ?_, unserved⟩ marks
      rw [List.getElem_cons_drop, List.take_append_drop]
    · exact .nothing unserved

/-- Whatever a set contributes answers a credential query that one of its options lists. -/
theorem mem_of_contribution (distinct : (responses.map (·.query.id)).Nodup) {set : CredentialSet}
    {part : List Response} (h : set.contribution responses = .ok part) {selected : Response}
    (hs : selected ∈ part) :
    ∃ response ∈ responses, response.candidates ≠ [] ∧
      selected = { response with set := some set } ∧
      ∃ option ∈ set.options.toList, selected.query.id ∈ option.toList := by
  cases contributes_of_contribution distinct h with
  | nothing => cases hs
  | @chosen option _ first marks =>
    obtain ⟨id, hid, mark⟩ := exists_of_mem_right marks hs
    obtain ⟨response, hr, same, hm⟩ := marks_iff.1 mark
    obtain ⟨other, ho, other_id, candidates⟩ := first.1 id hid
    have eq : other = response := List.inj_on_of_nodup_map distinct ho hr (other_id.trans same.symm)
    subst eq hm
    exact ⟨other, ho, candidates, rfl, option, first.mem, same ▸ hid⟩

end CredentialSet

/-- Only a required set makes a selection by credential sets fail, and the first one does. -/
theorem select_eq_error_iff {sets : List CredentialSet} (declared : sets ≠ [])
    {error : SelectionError} :
    select responses sets = .error error ↔
      ∃ set, IsFirst (CredentialSet.IsMissing responses) sets set ∧
        error = .unsatisfiedSet set.purpose := by
  have fails : (fun set : CredentialSet => ∃ e, set.contribution responses = .error e) =
      CredentialSet.IsMissing responses := by
    funext set
    simp [CredentialSet.contribution_eq_error_iff]
  rw [select, if_neg (by simpa using declared), Except.map_eq_error_iff, mapM_eq_error_iff, fails]
  simp only [CredentialSet.contribution_eq_error_iff]
  constructor
  · intro h
    obtain ⟨set, first, -, h⟩ := h
    exact ⟨set, first, h⟩
  · intro h
    obtain ⟨set, first, h⟩ := h
    exact ⟨set, first, first.1, h⟩

/-- A selection by credential sets joins what each set contributes. -/
theorem select_eq_ok_iff {sets : List CredentialSet} (declared : sets ≠ [])
    {selected : List Response} :
    select responses sets = .ok selected ↔
      ∃ parts, List.Forall₂ (fun set part => set.contribution responses = .ok part) sets parts ∧
        parts.flatten = selected := by
  rw [select, if_neg (by simpa using declared), Except.map_eq_ok_iff]
  simp only [mapM_eq_ok_iff]

/-- What a set contributes does not depend on the sets around it. -/
theorem exists_flatMap_of_select {sets : List CredentialSet} (declared : sets ≠ [])
    {selected : List Response} (h : select responses sets = .ok selected) :
    ∃ part : CredentialSet → List Response, selected = sets.flatMap part ∧
      ∀ set ∈ sets, set.contribution responses = .ok (part set) := by
  obtain ⟨parts, contributions, rfl⟩ := (select_eq_ok_iff declared).1 h
  let part (set : CredentialSet) : List Response :=
    (set.contribution responses).toOption.getD []
  have same : List.Forall₂ (fun set found => part set = found) sets parts :=
    contributions.imp fun set found contribution => by simp [part, contribution, Except.toOption]
  refine ⟨part, ?_, fun set mem => ?_⟩
  · rw [← List.forall₂_map_left_iff, List.forall₂_eq_eq_eq] at same
    rw [← same, List.flatMap_def]
  · obtain ⟨found, -, contribution⟩ := exists_of_mem_left contributions mem
    simp [part, contribution, Except.toOption]

/-- Without credential sets the responses are kept as they are, if each has a candidate. -/
theorem select_nil_eq_ok_iff {selected : List Response} :
    select responses [] = .ok selected ↔
      (∀ response ∈ responses, response.candidates ≠ []) ∧ responses = selected := by
  simp only [select, List.isEmpty_nil, if_true]
  split
  · next response h =>
    have first := find?_eq_some_iff_isFirst.1 h
    simp only [reduceCtorEq, false_iff, not_and]
    intro matched
    exact absurd (Response.not_isMatched_iff.1 first.1) (matched response first.mem)
  · next h =>
    simp only [List.find?_eq_none, Response.not_isMatched_iff] at h
    rw [Except.ok.injEq]
    exact ⟨fun same => ⟨h, same⟩, And.right⟩

theorem select_nil_eq_error_iff {error : SelectionError} :
    select responses [] = .error error ↔
      ∃ response, IsFirst (·.candidates = []) responses response ∧
        error = .noMatch response.query.id := by
  simp only [select, List.isEmpty_nil, if_true]
  split
  · next response h =>
    have first := find?_eq_some_iff_isFirst.1 h
    simp only [Response.not_isMatched_iff] at first
    rw [Except.error.injEq]
    constructor
    · rintro rfl
      exact ⟨response, first, rfl⟩
    · intro h
      obtain ⟨other, h, rfl⟩ := h
      rw [first.eq h]
  · next h =>
    simp only [List.find?_eq_none, Response.not_isMatched_iff] at h
    simp only [reduceCtorEq, false_iff, not_exists, not_and]
    intro response first
    exact absurd first.1 (h response first.mem)

/-- A selected response is one that has candidates, and it is marked with a declared set. -/
theorem mem_of_select (distinct : (responses.map (·.query.id)).Nodup) {sets : List CredentialSet}
    {selected : List Response} (h : select responses sets = .ok selected) {response : Response}
    (hr : response ∈ selected) :
    ∃ original ∈ responses, original.candidates ≠ [] ∧ response.query = original.query ∧
      response.candidates = original.candidates ∧
      (sets ≠ [] → ∃ set ∈ sets, response.set = some set ∧
        ∃ option ∈ set.options.toList, response.query.id ∈ option.toList) := by
  by_cases declared : sets = []
  · subst declared
    obtain ⟨matched, same⟩ := select_nil_eq_ok_iff.1 h
    subst same
    exact ⟨response, hr, matched response hr, rfl, rfl, fun h => absurd rfl h⟩
  · obtain ⟨parts, contributions, same⟩ := (select_eq_ok_iff declared).1 h
    subst same
    obtain ⟨part, hp, hr⟩ := List.mem_flatten.1 hr
    obtain ⟨set, hs, contribution⟩ := exists_of_mem_right contributions hp
    obtain ⟨original, ho, candidates, same, option⟩ :=
      CredentialSet.mem_of_contribution distinct contribution hr
    subst same
    exact ⟨original, ho, candidates, rfl, rfl, fun _ => ⟨set, hs, rfl, option⟩⟩

theorem selection_ok_iff (distinct : (responses.map (·.query.id)).Nodup)
    {sets : List CredentialSet} {selected : List Response} :
    Selection responses sets (.ok selected) ↔ select responses sets = .ok selected := by
  by_cases declared : sets = []
  · subst declared
    rw [select_nil_eq_ok_iff]
    constructor
    · rintro (matched | _ | _ | ⟨declared, -, -⟩)
      · exact ⟨matched, rfl⟩
      · exact absurd rfl declared
    · intro h
      obtain ⟨matched, rfl⟩ := h
      exact .unchanged matched
  · simp only [select_eq_ok_iff declared, CredentialSet.contribution_eq_ok_iff distinct,
      List.forall₂_and_left]
    constructor
    · rintro (_ | _ | _ | ⟨-, present, parts⟩)
      · exact absurd rfl declared
      · exact ⟨_, ⟨present, parts⟩, rfl⟩
    · intro h
      obtain ⟨_, ⟨present, parts⟩, rfl⟩ := h
      exact .chosen declared present parts

theorem selection_error_iff {sets : List CredentialSet} {error : SelectionError} :
    Selection responses sets (.error error) ↔ select responses sets = .error error := by
  by_cases declared : sets = []
  · subst declared
    rw [select_nil_eq_error_iff]
    constructor
    · rintro (_ | first | first | _)
      · exact ⟨_, first, rfl⟩
      · exact absurd first not_isFirst_nil
    · intro h
      obtain ⟨response, first, rfl⟩ := h
      exact .unmatched first
  · rw [select_eq_error_iff declared]
    constructor
    · rintro (_ | first | first | _)
      · exact absurd rfl declared
      · exact ⟨_, first, rfl⟩
    · intro h
      obtain ⟨set, first, rfl⟩ := h
      exact .missing first

/-- Selection computes the outcome that the ordered choice of options prescribes, and no other. -/
theorem select_eq_iff_selection {responses : List Response}
    (distinct : (responses.map (·.query.id)).Nodup) (sets : List CredentialSet)
    (outcome : Except SelectionError (List Response)) :
    select responses sets = outcome ↔ Selection responses sets outcome := by
  cases outcome with
  | ok selected => exact (selection_ok_iff distinct).symm
  | error error => exact selection_error_iff.symm

def Claim.country : Claim where
  id := some "country"
  path := ⟨.singleton (.key "country")⟩

/-- Asks for the country on a credential of the type. -/
def CredentialQuery.forType (type : String) : CredentialQuery where
  id := type
  format := .sdJwtVc
  constraint := .vct (.singleton type)
  claims := .singleton .country
  claimSets := [.singleton "country"]
  index := .ofList [("country", 0)]
  applies := rfl
  indexed := rfl

def Credential.ofType (type id : String) : Credential where
  id := id
  claims := .sdJwt ⟨type, .ofList [("country", .str "AT")]⟩

def Query.cardAndPassport (sets : List CredentialSet) : Query where
  credentials := ⟨.forType "card", [.forType "passport"]⟩
  sets := sets
  distinct := by decide

def Response.ofIds (type : String) (ids : List String) : Response where
  query := .forType type
  candidates := ids.map fun id => ⟨.ofType type id, [(.country, .json (.str "AT"))]⟩

/-- Entrance by a card and a ticket, or else by a passport that is shown twice. -/
def CredentialSet.entrance : CredentialSet where
  purpose := .str "entrance"
  options := ⟨⟨"card", ["ticket"]⟩, [⟨"passport", ["card", "passport"]⟩, .singleton "card"]⟩

def CredentialSet.discount : CredentialSet where
  purpose := .str "discount"
  required := false
  options := ⟨.singleton "ticket", [.singleton "student"]⟩

/-- Entrance by the second option. -/
def Response.entrance (passports cards : List String) : List Response :=
  [{ ofIds "passport" passports with set := some .entrance },
   { ofIds "card" cards with set := some .entrance },
   { ofIds "passport" passports with set := some .entrance }]

/-- The second option is the first that is served, and an optional set may be left without any. -/
theorem selection_entrance :
    let responses := [.ofIds "passport" ["p"], .ofIds "ticket" [], .ofIds "card" ["b", "a"]]
    (responses.map (·.query.id)).Nodup ∧
      Selection responses [.discount, .entrance] (.ok (Response.entrance ["p"] ["b", "a"])) := by
  intro responses
  have distinct : (responses.map (·.query.id)).Nodup := by decide
  exact ⟨distinct, (select_eq_iff_selection distinct _ _).1 rfl⟩

end WalletQuery
