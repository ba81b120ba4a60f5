import WalletQuery.Matching
import WalletQuery.Query.Basic
import WalletQuery.Store.Memory

/-! Queries answered from a store: the responses to credential queries, and the choice among them by
credential sets. -/
namespace WalletQuery

/-- A stored credential that answers a credential query, with the claims to disclose. -/
structure Candidate where
  credential : Credential
  disclosures : List Disclosure

/-- The candidates for a credential query. -/
structure Response where
  query : CredentialQuery
  /-- The credential set under which the response was selected. -/
  set : Option CredentialSet := none
  candidates : List Candidate

def Response.isMatched (response : Response) : Bool := !response.candidates.isEmpty

/-- Why a wallet cannot answer a query. -/
inductive SelectionError where
  | noMatch (query : String)
  | unsatisfiedSet (purpose : Json)

def Json.purposeText : Json → String
  | .str content => content
  | value => value.text

def SelectionError.message : SelectionError → String
  | noMatch query => "no matches for credential query with id " ++ query
  | unsatisfiedSet purpose =>
    "no credentials match required credential set query with purpose " ++ purpose.purposeText

/-- Whether each of the listed credential queries has a candidate. -/
def SetOption.isSatisfied (option : SetOption) (responses : List Response) : Bool :=
  option.toList.all fun id =>
    responses.any fun response => response.query.id == id && response.isMatched

namespace CredentialSet

/-- The responses to the queries of the first satisfied option. -/
def contribution (set : CredentialSet) (responses : List Response) :
    Except SelectionError (List Response) :=
  match set.options.toList.find? (·.isSatisfied responses) with
  | some option =>
    .ok (option.toList.flatMap fun id =>
      (responses.filter (·.query.id == id)).map ({ · with set := some set }))
  | none => if set.required then .error (.unsatisfiedSet set.purpose) else .ok []

end CredentialSet

/-- Without credential sets every response needs a candidate. With them each set contributes its
responses in turn, and those that no set asks for are left out. -/
def select (responses : List Response) (sets : List CredentialSet) :
    Except SelectionError (List Response) :=
  if sets.isEmpty then
    match responses.find? (!·.isMatched) with
    | some response => .error (.noMatch response.query.id)
    | none => .ok responses
  else List.flatten <$> sets.mapM (·.contribution responses)

variable {m : Type → Type} [Monad m]

/-- The candidates among credentials that were looked up; one that was not found is passed over. -/
def CredentialQuery.candidates (query : CredentialQuery) (found : List (Option Credential)) :
    List Candidate :=
  found.filterMap fun credential? => do
    let credential ← credential?
    guard (query.constraint.accepts credential)
    let disclosures ← query.match? credential
    return { credential, disclosures }

/-- Looks at every credential of the store; the store is left alone if the format cannot match. -/
def CredentialQuery.evaluate (query : CredentialQuery) (store : Store m) : m Response := do
  if query.format.isSupported then
    let ids ← store.list
    let found ← ids.mapM store.lookup
    return { query, candidates := query.candidates found }
  else return { query, candidates := [] }

/-- Evaluates every credential query in turn. -/
def Query.evaluate (query : Query) (store : Store m) : m (List Response) :=
  query.credentials.toList.mapM (·.evaluate store)

/-- Selects from the responses to the credential queries. -/
def Query.execute (query : Query) (store : Store m) :
    m (Except SelectionError (List Response)) := do
  let responses ← query.evaluate store
  return select responses query.sets

end WalletQuery
