import RecordSearch.Search.Request

namespace RecordSearch

/-!
# Loading the records behind hits

The record store is asked once for all identities of the hits. Whether it answers with items
by identity or with records in any order, an item belongs to the hits whose identity has the
same text, and of several items for one text the last one counts.

* `itemFor`: the item of the identities with one text;
* `loadHits`: the items of all hits, in hit order.
-/

/-- The items of a record store by the text of their identities. -/
def Resolution.byId : Resolution → Except Unprintable (List (String × Item))
  | .entries es => es.mapM fun e => do return (← Failure.textOf e.1, e.2)
  | .records rs => rs.mapM fun r => do return (← r.id, .record r)

/-- Is the item nothing? -/
def Item.isNothing : Item → Bool
  | .value .null => true
  | _ => false

/-- The item of the identities with a text: the last one for it, unless that is nothing. -/
def itemFor (items : List (String × Item)) (text : String) : Option Item :=
  (items.reverse.lookup text).filter fun item => !item.isNothing

/-- The items of identities from the answer of a record store, in the order of the identities.
    Those that it does not know are dropped. -/
def Resolution.load (resolution : Resolution) (ids : List Value) : Program (List Item) := do
  let items ← Program.ofExcept (resolution.byId.mapError .ofUnprintable)
  let texts ← Program.ofExcept ((ids.mapM Failure.textOf).mapError .ofUnprintable)
  let found := texts.filterMap (itemFor items)
  -- Each hit counts, also if several of them have one record.
  if found.length < ids.length then
    Program.log (.hitsDropped (ids.length - found.length))
  return found

/-- The records behind results, in hit order. Hits whose record the store does not know are
    dropped. -/
def loadHits (request : SearchRequest) (results : SearchResults) : Program (List Item) :=
  -- A count of zero is believed, whatever hits are listed with it.
  if results.total = 0 then return []
  else do
    let ids ← Program.ofExcept results.ids
    if ids.isEmpty then return []
    else if !request.type.loadable then .fail (.notLoadable request.type.name)
    else .resolve request.type ids fun
      | .error failure => .fail (.raised failure)
      | .ok resolution => resolution.load ids

end RecordSearch
