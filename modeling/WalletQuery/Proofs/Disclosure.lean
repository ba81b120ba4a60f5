import WalletQuery.Proofs.Execution
import WalletQuery.Proofs.Matching

/-! An execution discloses only what the query asks for, whatever the store does. -/
namespace WalletQuery

/-- The credential is of a type that the constraint names. -/
def Constraint.Names : Constraint → Claims → Prop
  | doctype value, .mdoc claims => claims.doctype = value
  | vct values, .sdJwt claims => claims.vct ∈ values.toList
  | _, _ => False

theorem Constraint.accepts_iff_names {constraint : Constraint} {credential : Credential} :
    constraint.accepts credential = true ↔ constraint.Names credential.claims := by
  unfold accepts Names
  cases constraint <;> cases credential.claims <;> simp

structure Candidate.Sound (query : CredentialQuery) (candidate : Candidate) : Prop where
  format : candidate.credential.format = query.format
  named : query.constraint.Names candidate.credential.claims
  /-- Only values of declared claims are disclosed, and only accepted ones. -/
  disclosed : ∀ d ∈ candidate.disclosures, d.1 ∈ query.claims.toList ∧
    candidate.credential.resolve d.1.path = .ok d.2 ∧ d.2.isAccepted d.1.values = true
  claimSet : query.claimSets ≠ [] →
    ∃ set ∈ query.claimSets, candidate.disclosures.map (·.1.id) = set.toList.map some

structure Response.Sound (query : Query) (response : Response) : Prop where
  declared : response.query ∈ query.credentials.toList
  matched : response.candidates ≠ []
  candidates : ∀ candidate ∈ response.candidates, candidate.Sound response.query
  /-- With credential sets, the response is one that an option of its set lists. -/
  selected : query.sets ≠ [] → ∃ set ∈ query.sets, response.set = some set ∧
    ∃ option ∈ set.options.toList, response.query.id ∈ option.toList

theorem CredentialQuery.sound_of_mem_candidates {query : CredentialQuery}
    {found : List (Option Credential)} {candidate : Candidate}
    (h : candidate ∈ query.candidates found) : candidate.Sound query := by
  obtain ⟨-, accepted, matched⟩ := mem_candidates_iff.1 h
  refine ⟨Constraint.format_of_accepts accepted query.applies,
    Constraint.accepts_iff_names.1 accepted, fun d hd => mem_claims_of_match? matched hd, ?_⟩
  intro hs
  obtain ⟨set, first, disclosed⟩ := (match?_eq_some_iff_first hs).1 matched
  exact ⟨set, first.mem, (Credential.discloseSet?_eq_some_iff.1 disclosed).1⟩

/-- Selecting from responses with sound candidates gives sound responses. -/
theorem Query.sound_of_select {query : Query} {found : List (List (Option Credential))}
    {selected : List Response} (h : select (query.responses found) query.sets = .ok selected)
    {response : Response} (hr : response ∈ selected) : response.Sound query := by
  obtain ⟨original, ho, matched, same_query, same_candidates, option⟩ :=
    mem_of_select (query.nodup_ids_responses found) h hr
  obtain ⟨declared, credentials, -, same⟩ := mem_responses ho
  refine ⟨same_query ▸ declared, same_candidates ▸ matched, ?_, option⟩
  intro candidate hc
  rw [same_candidates, same] at hc
  rw [same_query]
  exact CredentialQuery.sound_of_mem_candidates hc

/-- The store may change its answers from call to call, and may fail. -/
theorem execute_sound {σ ε : Type} {query : Query} {store : Store (StateT σ (Except ε))}
    {before after : σ} {responses : List Response}
    (h : (query.execute store).run before = .ok (.ok responses, after)) :
    ∀ response ∈ responses, response.Sound query := by
  rw [Query.execute_eq_map, StateT.run_map, Except.map_eq_ok_iff] at h
  obtain ⟨⟨found, state⟩, -, answer⟩ := h
  intro response hr
  exact Query.sound_of_select (congrArg Prod.fst answer) hr

/-- A store that fails after a number of calls, lists an id that it does not have, and gives another
credential for an id at first than it does later. -/
def Store.unsteady (calls : Nat) : Store (StateT Nat (Except String)) where
  list := do
    if calls ≤ (← get) then throw "out of order"
    modify (· + 1)
    return ["lost", "a", "b"]
  lookup id := do
    let count ← get
    if calls ≤ count then throw "out of order"
    set (count + 1)
    return match id with
    | "lost" => none
    | "a" => some (.ofType "card" "a")
    | _ =>
      if count < 4 then some { id := "b", claims := .mdoc (.ofDoctype "card") }
      else some (.ofType "passport" "b")

/-- What is looked up for the card is no passport yet, and what is disclosed is sound. -/
theorem sound_entrance :
    let query := Query.cardAndPassport [.discount, .entrance]
    let responses := Response.entrance ["b"] ["a"]
    (query.execute (Store.unsteady 9)).run 0 = .ok (.ok responses, 8) ∧
      ∀ response ∈ responses, response.Sound query := by
  intro query responses
  have run : (query.execute (Store.unsteady 9)).run 0 = .ok (.ok responses, 8) := rfl
  exact ⟨run, execute_sound run⟩

end WalletQuery
