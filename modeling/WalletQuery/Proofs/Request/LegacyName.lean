import WalletQuery.Proofs.Request.Built
import WalletQuery.Proofs.Request.Normal

/-! The legacy name of a format. To tolerate it is to read the request in which the current name
stands in its place. -/
namespace WalletQuery
open Reader

/-- The name that the format goes by now. -/
def Format.currentName (name : String) : String :=
  if name = legacySdJwtName then sdJwtVcName else name

def CredentialRequest.withCurrentName (request : CredentialRequest) : CredentialRequest :=
  { request with format := Format.currentName request.format }

def Request.withCurrentNames (request : Request) : Request :=
  { request with
    credentials := request.credentials.map (List.map CredentialRequest.withCurrentName) }

namespace Json

def changeMember (name : String) (change : Json → Json) (members : List (String × Json)) :
    List (String × Json) :=
  members.map fun member => (member.1, if member.1 = name then change member.2 else member.2)

/-- Changes a field of a record, which is a member of an object or an item of an array. -/
def changeField (name : String) (position : Nat) (change : Json → Json) : Json → Json
  | obj members => obj (changeMember name change members)
  | arr items => arr (items.modify position change)
  | value => value

def currentName : Json → Json
  | str name => str (Format.currentName name)
  | value => value

/-- The request in JSON, with the current name in the place of the legacy one. -/
def withCurrentNames : Json → Json :=
  changeField "credentials" 0 (mapItems (changeField "format" 1 currentName))

theorem lookup_changeMember (name key : String) (change : Json → Json)
    (members : List (String × Json)) :
    (changeMember name change members).lookup key =
      if key = name then (members.lookup key).map change else members.lookup key := by
  unfold changeMember
  induction members with
  | nil => simp
  | cons member rest ih =>
    obtain ⟨first, value⟩ := member
    rw [List.map_cons, Entries.lookup_cons, Entries.lookup_cons, ih]
    by_cases same : key = first
    · subst same
      simp only [if_true]
      split <;> rfl
    · simp only [same, if_false]

theorem mapItems_eq_null_iff {change : Json → Json} {value : Json} :
    mapItems change value = null ↔ value = null := by
  cases value <;> simp [mapItems]

end Json

namespace Reader
variable {α : Type}

/-- A change of the value that is read is a change of what is read, and makes no other error. -/
def Follows (item : Reader α) (change : Json → Json) (f : α → α) : Prop :=
  ∀ value, item (change value) = f <$> item value

theorem follows_string : Follows string Json.currentName Format.currentName := by
  intro value
  cases value <;> rfl

theorem member?_changeMember_of_ne {item : Reader α} {name key : String} (other : key ≠ name)
    (change : Json → Json) (members : List (String × Json)) :
    member? item key (Json.changeMember name change members) = member? item key members := by
  simp only [member?, Json.lookup_changeMember, if_neg other]

theorem optional_changeMember_of_ne {item : Reader α} {name key : String} (other : key ≠ name)
    (change : Json → Json) (members : List (String × Json)) :
    optional item key (Json.changeMember name change members) = optional item key members := by
  unfold optional
  rw [member?_changeMember_of_ne other]

theorem element_modify_of_ne {item : Reader α} {record : Record} {position other : Nat}
    (ne : position ≠ other) (change : Json → Json) (items : List Json) :
    element item record (items.modify position change) other = element item record items other := by
  simp only [element, List.getElem?_modify_ne _ _ ne, List.length_modify]

variable {item : Reader α} {change : Json → Json} {f : α → α} (follows : Follows item change f)
include follows

theorem Follows.list : Follows (list item) (Json.mapItems change) (List.map f) := by
  intro value
  cases value with
  | arr items =>
    have each : (fun value => item (change value)) = fun value => f <$> item value :=
      funext follows
    simp only [Json.mapItems, Reader.list, List.mapM_map, Function.comp_def, each, mapM_map_eq]
  | _ => rfl

theorem Follows.nullable (keeps : ∀ value, change value = .null ↔ value = .null) :
    Follows (nullable item) change (Option.map f) := by
  intro value
  by_cases null : value = .null
  · rw [(keeps value).2 null, null]
    rfl
  · rw [nullable_of_ne_null null, nullable_of_ne_null fun changed => null ((keeps value).1 changed),
      follows, Functor.map_map, Functor.map_map]
    rfl

theorem Follows.member? (name : String) (members : List (String × Json)) :
    member? item name (Json.changeMember name change members) =
      Option.map f <$> member? item name members := by
  simp only [Reader.member?, Json.lookup_changeMember, if_true]
  cases members.lookup name with
  | none => rfl
  | some value =>
    simp only [Option.map_some, follows value, Functor.map_map]

theorem Follows.optional (keeps : ∀ value, change value = .null ↔ value = .null) (name : String)
    (members : List (String × Json)) :
    optional item name (Json.changeMember name change members) =
      Option.map f <$> optional item name members := by
  have joined (a?? : Option (Option α)) :
      (a??.map (Option.map f)).join = a??.join.map f := by
    cases a?? <;> rfl
  unfold Reader.optional
  rw [(follows.nullable keeps).member?, Functor.map_map, Functor.map_map]
  simp only [joined]

theorem Follows.element (record : Record) (items : List Json) (position : Nat) :
    element item record (items.modify position change) position =
      f <$> element item record items position := by
  simp only [Reader.element, List.getElem?_modify_eq, List.length_modify]
  cases items[position]? with
  | none => rfl
  | some value => exact follows value

end Reader

theorem present_map {α : Type} (name : String) (f : α → α) (a? : Option α) :
    present name (a?.map f) = f <$> present name a? := by
  cases a? <;> rfl

theorem Record.checkLength_modify (record : Record) (items : List Json) (position : Nat)
    (change : Json → Json) :
    record.checkLength (items.modify position change) = record.checkLength items := by
  unfold checkLength
  rw [List.length_modify]

/-- The change is made in both forms of the record, and no other field of it is read otherwise. -/
theorem CredentialRequest.follows_read :
    Follows CredentialRequest.read (Json.changeField "format" 1 Json.currentName)
      CredentialRequest.withCurrentName := by
  intro value
  cases value with
  | obj members =>
    have format := follows_string.member? "format" members
    have id : member? string "id" (Json.changeMember "format" Json.currentName members) =
        member? string "id" members := member?_changeMember_of_ne (by decide) _ members
    have others {α : Type} {item : Reader α} {key : String} (ne : key ≠ "format") :
        optional item key (Json.changeMember "format" Json.currentName members) =
          optional item key members := optional_changeMember_of_ne ne _ members
    simp (disch := decide) only [Json.changeField, CredentialRequest.read, format, id, others,
      present_map, bind_map_left, map_bind]
    rfl
  | arr items =>
    have format := follows_string.element .credentialQuery items 1
    have others {α : Type} {item : Reader α} {position : Nat} (ne : 1 ≠ position) :
        element item .credentialQuery (items.modify 1 Json.currentName) position =
          element item .credentialQuery items position := element_modify_of_ne ne _ items
    simp (disch := decide) only [Json.changeField, CredentialRequest.read, format, others,
      Record.checkLength_modify, bind_map_left, map_bind]
    rfl
  | _ => rfl

theorem Request.follows_read :
    Follows Request.read Json.withCurrentNames Request.withCurrentNames := by
  have list := CredentialRequest.follows_read.list
  have keeps : ∀ value, Json.mapItems (Json.changeField "format" 1 Json.currentName) value = .null ↔
      value = .null := fun _ => Json.mapItems_eq_null_iff
  intro value
  cases value with
  | obj members =>
    have credentials := list.optional keeps "credentials" members
    have sets {α : Type} {item : Reader α} (change : Json → Json) :
        optional item "credential_sets" (Json.changeMember "credentials" change members) =
          optional item "credential_sets" members :=
      optional_changeMember_of_ne (by decide) change members
    simp only [Json.withCurrentNames, Json.changeField, Request.read, credentials, sets,
      bind_map_left, map_bind]
    rfl
  | arr items =>
    have credentials := (list.nullable keeps).element .query items 0
    have sets {α : Type} {item : Reader α} (change : Json → Json) :
        element item .query (items.modify 0 change) 1 = element item .query items 1 :=
      element_modify_of_ne Nat.zero_ne_one change items
    simp only [Json.withCurrentNames, Json.changeField, Request.read, credentials, sets,
      Record.checkLength_modify, bind_map_left, map_bind]
    rfl
  | _ => rfl

namespace Format

theorem read_tolerant (name : String) : read ⟨true⟩ name = read .strict (currentName name) := by
  have strict : ofName sdJwtVcName = .sdJwtVc := rfl
  unfold read currentName
  simp only [if_true, Tolerance.strict, Bool.false_eq_true, if_false, ofNameLenient]
  split
  · exact strict.symm
  · rfl

theorem currentName_ne (name : String) : currentName name ≠ legacySdJwtName := by
  unfold currentName
  split
  · decide
  · assumption

theorem currentName_of_ne {name : String} (h : name ≠ legacySdJwtName) : currentName name = name :=
  if_neg h

end Format

theorem CredentialRequest.toCredentialQuery_tolerant (request : CredentialRequest) :
    request.toCredentialQuery ⟨true⟩ = request.withCurrentName.toCredentialQuery .strict := by
  unfold toCredentialQuery
  rw [Format.read_tolerant]
  rfl

theorem nonEmpty_map {α β : Type} (violation : Violation) (f : α → β) (items : List α) :
    nonEmpty violation (items.map f) =
      (fun xs => ⟨f xs.head, xs.tail.map f⟩) <$> nonEmpty violation items := by
  cases items <;> rfl

theorem Request.toQuery_tolerant (request : Request) :
    request.toQuery ⟨true⟩ = request.withCurrentNames.toQuery .strict := by
  have credentials : request.withCurrentNames.credentials.getD [] =
      (request.credentials.getD []).map CredentialRequest.withCurrentName := by
    unfold withCurrentNames
    cases request.credentials <;> rfl
  unfold toQuery
  rw [credentials, nonEmpty_map, bind_map_left]
  simp only [NonEmptyList.mapM, List.mapM_map, Function.comp_def,
    ← CredentialRequest.toCredentialQuery_tolerant]
  rfl

theorem Query.ofJson_tolerant (value : Json) :
    ofJson ⟨true⟩ value = ofJson .strict value.withCurrentNames := by
  unfold ofJson
  simp only [Request.follows_read value, Request.toQuery_tolerant]
  cases Request.read value <;> rfl

theorem Request.withCurrentNames_of_ne {request : Request}
    (current : ∀ r ∈ request.credentials.getD [], r.format ≠ Format.legacySdJwtName) :
    request.withCurrentNames = request := by
  obtain ⟨credentials, sets⟩ := request
  cases credentials with
  | none => rfl
  | some requests =>
    have each : ∀ r ∈ requests, r.withCurrentName = id r := by
      intro r mem
      unfold CredentialRequest.withCurrentName
      rw [Format.currentName_of_ne (current r mem)]
      rfl
    have same : requests.map CredentialRequest.withCurrentName = requests :=
      (List.map_congr_left each).trans (List.map_id requests)
    simp only [withCurrentNames, Option.map_some, same]

/-- To tolerate the legacy name is to build what the request asks for by the current name, or to
report the same error. It makes no difference to a request that does not use the legacy name, and no
query is built that does. -/
theorem tolerance_is_renaming :
    (∀ request : Request, request.toQuery ⟨true⟩ = request.withCurrentNames.toQuery .strict) ∧
    (∀ value : Json, Query.ofJson ⟨true⟩ value = Query.ofJson .strict value.withCurrentNames) ∧
    (∀ request : Request,
      (∀ r ∈ request.credentials.getD [], r.format ≠ Format.legacySdJwtName) →
      request.toQuery ⟨true⟩ = request.toQuery .strict) ∧
    ∀ (request : Request) (query : Query), request.toQuery ⟨true⟩ = .ok query →
      ∀ q ∈ query.credentials.toList, q.format.name ≠ Format.legacySdJwtName := by
  refine ⟨Request.toQuery_tolerant, Query.ofJson_tolerant, fun request current => ?_,
    fun request query built q mem => ?_⟩
  · rw [Request.toQuery_tolerant, Request.withCurrentNames_of_ne current]
  · obtain ⟨queries, -⟩ := Request.toQuery_eq_ok_iff.1 built
    obtain ⟨r, -, made⟩ := exists_of_mem_right queries mem
    have format := (CredentialRequest.toCredentialQuery_eq_ok_iff.1 made).format
    have name : q.format.name = Format.currentName r.format := by
      rw [← format, Format.read_tolerant]
      exact Format.name_ofName _
    rw [name]
    exact Format.currentName_ne r.format

/-- Asks for a card by a name of the format, with the accepted types as given. -/
def Request.card (format : String) (types : Json) : Request where
  credentials := some
    [{ id := "card"
       format := format
       constraint := some (.ofList [("vct_values", types)])
       claims := some [⟨none, ⟨.singleton (.key "country")⟩, none, some true⟩]
       claimSets := none
       trustedAuthorities := none
       holderBinding := none
       multiple := none }]
  sets := none

/-- With the option, a request for a card by the legacy name makes a query that carries the current
one, and types that are no array are the same error by either name. -/
theorem toQuery_card_by_name :
    let old := Request.card "vc+sd-jwt" (.arr [.str "card"])
    let new := Request.card "dc+sd-jwt" (.arr [.str "card"])
    (∃ query, old.toQuery ⟨true⟩ = .ok query ∧ new.toQuery .strict = .ok query ∧
      ∀ q ∈ query.credentials.toList, q.format.name ≠ "vc+sd-jwt") ∧
      ((∀ r ∈ new.credentials.getD [], r.format ≠ "vc+sd-jwt") ∧
        new.toQuery ⟨true⟩ = new.toQuery .strict) ∧
      (Request.card "vc+sd-jwt" (.str "card")).toQuery ⟨true⟩ = .error (.noVctValues "card") := by
  intro old new
  obtain ⟨renamed, -, agree, carried⟩ := tolerance_is_renaming
  have built : ∃ query, old.toQuery ⟨true⟩ = .ok query := ⟨_, rfl⟩
  have current : ∀ r ∈ new.credentials.getD [], r.format ≠ "vc+sd-jwt" := by decide
  obtain ⟨query, made⟩ := built
  have strict : new.toQuery .strict = .ok query := (renamed old).symm.trans made
  exact ⟨⟨query, made, strict, carried old query made⟩, ⟨current, agree new current⟩, rfl⟩

end WalletQuery
