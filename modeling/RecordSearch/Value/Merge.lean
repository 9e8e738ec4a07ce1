import RecordSearch.Value

namespace RecordSearch

/-!
# Merging mappings

`Value.merge` lays one value over another: mappings merge key by key, to any depth, and any
other value replaces what was there. Keys of the lower mapping keep their places.

`Document.insertAt` sets one value below a path of keys, and `Document.getAt?` finds it.
-/

mutual

/-- Lays `upper` over `base`. -/
def Value.merge (base : Value) : (upper : Value) → Value
  | .mapping upper => match base with
    | .mapping base => .mapping (Document.merge base upper)
    | _ => .mapping upper
  | upper => upper

/-- Lays the entries of `upper` over those of `base`. -/
def Document.merge (base : Document) : (upper : List (String × Value)) → Document
  | [] => base
  | (key, v) :: upper =>
    Document.merge
      (match Document.get? base key with
        | some w => Document.insert base key (Value.merge w v)
        | none => Document.insert base key v)
      upper

end

/-- Sets the value of `last` below the given keys. Mappings that are not there are made; a
    value in the way that is no mapping stays, and nothing is set. -/
def Document.insertAt (d : Document) :
    (keys : List String) → (last : String) → Value → Document
  | [], last, v => Document.insert d last v
  | key :: keys, last, v =>
    match Document.get? d key with
    | none => Document.insert d key (.mapping (Document.insertAt [] keys last v))
    | some (.mapping below) =>
      Document.insert d key (.mapping (Document.insertAt below keys last v))
    | some _ => d

/-- The value of `last` below the given keys. -/
def Document.getAt? (d : Document) : (keys : List String) → (last : String) → Option Value
  | [], last => Document.get? d last
  | key :: keys, last =>
    match Document.get? d key with
    | some (.mapping below) => Document.getAt? below keys last
    | _ => none

end RecordSearch
