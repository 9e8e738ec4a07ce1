import RecordSearch.Checked.Scalar
import RecordSearch.Error

namespace RecordSearch

/-!
# Search results

A response of the backend reduced to a count and an ordered list of hits. Each hit is the
stored document with its identity under `_id`.

* `SearchResults.ids`: the identities, in hit order;
* `SearchResults.check`: results from given fields;
* `SearchResults.ofResponse`: results from a response of the backend.

A response, and the document of a hit, may also be given as a list of pairs; their keys are
checked to be text at the end, with the fields of the results.
-/

/-- The results of a search. -/
structure SearchResults where
  total : Nat
  hits : List Document
  pages : Option Binary64
  raw : Document
deriving Repr

/-- The key of the identity of a hit. -/
def idKey : String := "_id"

/-! ### Pairs -/

/-- Entries whose keys are not known to be text. -/
abbrev Keyed := List (Value × Value)

/-- The key and the value of one member of a list of pairs. -/
def pairOf (position : Nat) (member : Value) : Except Error (Value × Value) :=
  match member.elements? with
  | none => .error .wrongType
  | some [key, value] => if key.isKey then .ok (key, value) else .error .wrongType
  | some members => .error (.wrongPairLength position members.length)

/-- The pairs of a list, where the first member has the given position. -/
def pairsFrom : Nat → List Value → Except Error Keyed
  | _, [] => .ok []
  | position, v :: vs => do
    let pair ← pairOf position v
    let pairs ← pairsFrom (position + 1) vs
    return pair :: pairs

/-- The entries of a mapping or of a list of pairs; the last value of a key counts. -/
def keyedOf : Value → Except Error Keyed
  | .mapping entries => .ok (entries.map fun e => (.str e.1, e.2))
  | .brokenMapping entries => .ok (entries.map fun e => (.ofCodes e.1, e.2))
  | v => match v.elements? with
    | none => .error .wrongType
    | some members => Value.keyed <$> pairsFrom 0 members

/-- The value at a key of text. -/
def Keyed.get? (entries : Keyed) (key : String) : Option Value :=
  (entries.find? fun e => e.1.sameKey (.str key)).map Prod.snd

/-- Without a key of text. -/
def Keyed.erase (entries : Keyed) (key : String) : Keyed :=
  entries.filter fun e => !e.1.sameKey (.str key)

/-- The entries as a mapping from text, if all keys are text. -/
def Keyed.toDocument? : Keyed → Option Document
  | [] => some []
  | (.str key, v) :: entries => (toDocument? entries).map ((key, v) :: ·)
  | _ => none

/-- The step of a path that a key stands for: a text itself, the number of a truth value, the
    literal of any other key. -/
def keyStep (key : Value) : PathStep :=
  match key with
  | .str s => .field s
  | .bool b => .field (if b then "1" else "0")
  | v => .field v.literal

/-- The check of the keys one by one. -/
def Keyed.checkKeys : Keyed → Checked (List (String × Value))
  | [] => .valid []
  | (key, v) :: entries =>
    (fun key rest => (key, v) :: rest)
      <$> .inside (keyStep key) (.inside (.field "[key]") (Checked.text key))
      <*> checkKeys entries

/-- The check that all keys are text. -/
def Keyed.check (entries : Keyed) : Checked Document :=
  match entries.toDocument? with
  | some d => .valid d
  | none => Document.ofEntries <$> entries.checkKeys

/-- The check of mappings from the given position on. -/
def Keyed.checkAllFrom : Nat → List Keyed → Checked (List Document)
  | _, [] => .valid []
  | index, entries :: rest =>
    List.cons <$> .inside (.item index) entries.check <*> checkAllFrom (index + 1) rest

namespace SearchResults

/-- No hits at all. -/
def empty : SearchResults := ⟨0, [], none, []⟩

/-- The identity of a hit. -/
def idOf (hit : Document) : Except Error Value :=
  match hit.get? idKey with
  | some id => .ok id
  | none => .error (.missingKey idKey)

/-- The identities of the hits, in hit order. -/
def ids (results : SearchResults) : Except Error (List Value) := results.hits.mapM idOf

/-- Results from given fields. -/
def check (fields : Document) : Checked SearchResults :=
  SearchResults.mk
    <$> .field "total" (fields.get? "total") (.valid 0) Checked.natural
    <*> .field "hits" (fields.get? "hits") (.valid []) (Checked.listOf Checked.mapping)
    <*> .field "nb_pages" (fields.get? "nb_pages") (.valid none)
      (Checked.optional Checked.number)
    <*> .field "raw" (fields.get? "raw") (.valid []) Checked.mapping

/-- Results from the parts of a response. -/
def ofParts (total : Value) (documents : List Keyed) (raw : Keyed) : Checked SearchResults :=
  SearchResults.mk
    <$> .inside (.field "total") (Checked.natural total)
    <*> .inside (.field "hits") (Keyed.checkAllFrom 0 documents)
    <*> .valid none
    <*> .inside (.field "raw") raw.check

/-- The count that a response gives: an integer, or a mapping with the integer as value. -/
def totalOf (hits : Document) : Value :=
  match hits.get? "total" with
  | none => .int 0
  | some total =>
    match total.entries? with
    | some entries => (entries.get? "value").getD (.int 0)
    | none => total

/-- The document of a hit of the backend, with its identity set. -/
def documentOf (hit : Value) : Except Error Keyed :=
  match hit.entries? with
  | some fields => do
    let source := (fields.get? "_source").getD .null
    let entries ← if source.isTruthy then keyedOf source else .ok []
    match fields.get? idKey with
    -- The identity of the hit replaces one that the stored document gives.
    | some id => return Value.insertKeyed entries (.str idKey) id
    | none => .error (.missingKey idKey)
  | none => .error .notAMapping

/-- The hits part of a response; if it is empty there are no hits. -/
def hitsOf (response : Keyed) : Except Error Document :=
  match response.get? "hits" with
  | none => .ok []
  | some part =>
    match part.entries? with
    | some hits => .ok hits
    | none => if part.isTruthy then .error .notAMapping else .ok []

/-- Results from a response of the backend. -/
def ofResponse (response : Value) : Except Error SearchResults := do
  let envelope ← keyedOf response
  let hits ← hitsOf envelope
  let listed := (hits.get? "hits").getD (.list [])
  match listed.elements? with
  | none => .error .wrongType
  | some members =>
    let documents ← members.mapM documentOf
    -- What is kept of the response is without the hits, which are the documents.
    (ofParts (totalOf hits) documents (envelope.erase "hits")).toExcept

end SearchResults

end RecordSearch
