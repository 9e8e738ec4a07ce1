import RecordSearch.Error

namespace RecordSearch

/-!
# Orders

Hits are sorted by pairs of a field and a direction. `orderPairs` takes any value that holds
such pairs apart; no orders at all leave the sorting to the backend.
-/

/-- The two members of one order. -/
def orderPair (order : Value) : Except Error (Value × Value) :=
  match order.elements? with
  | none => .error .wrongType
  | some [field, direction] => if field.isKey then .ok (field, direction) else .error .wrongType
  | some members => .error (.notTwo members.length)

/-- The pairs that a value holds, or nothing if it is empty. -/
def orderPairs (orders : Value) : Except Error (Option (List (Value × Value))) :=
  if orders.isTruthy then
    match orders.elements? with
    | none => .error .wrongType
    | some members => some <$> members.mapM orderPair
  else .ok none

/-- One order as it is sent. -/
def orderValue (order : String × String) : Value := .mapping [(order.1, .str order.2)]

end RecordSearch
