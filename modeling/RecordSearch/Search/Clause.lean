import RecordSearch.Value

namespace RecordSearch

/-!
# Filter clauses

A constraint on a key becomes at most one clause. A plain value asks for that value; a
sequence `(field, operator, bound)`, or `(operator, bound)` for the key itself, asks for a
range. Mappings, sequences of another length and unknown operators ask for nothing.

* `Clause.ofConstraint?`: the clause of one constraint;
* `Clause.ofWheres`: the clauses of all constraints, in their order.
-/

/-- The comparisons of a range. -/
inductive RangeOp where
  | gt
  | gte
  | lt
  | lte
deriving DecidableEq, Repr

/-- The comparison with a given symbol. -/
def RangeOp.ofSymbol? : String → Option RangeOp
  | ">" => some .gt
  | ">=" => some .gte
  | "<" => some .lt
  | "<=" => some .lte
  | _ => none

/-- The name of a comparison in a clause. -/
def RangeOp.name : RangeOp → String
  | .gt => "gt"
  | .gte => "gte"
  | .lt => "lt"
  | .lte => "lte"

/-- A condition on one field of a document. -/
inductive Clause where
  | term (field : String) (value : Value)
  | range (field : String) (op : RangeOp) (bound : Value)

namespace Clause

/-- The clause as it is sent. -/
def toValue : Clause → Value
  | .term field value => .mapping [("term", .mapping [(field, value)])]
  | .range field op bound => .mapping [("range", .mapping [(field, .mapping [(op.name, bound)])])]

/-- The range on a field, if the field and the operator are text and the operator is known. -/
def ofRange? (field op bound : Value) : Option Clause :=
  match field.str?, op.str? with
  | some field, some symbol => (RangeOp.ofSymbol? symbol).map fun op => .range field op bound
  | _, _ => none

/-- The clause of a constraint that is a sequence. -/
def ofSequence? (key : String) : List Value → Option Clause
  | [field, op, bound] => ofRange? field op bound
  -- Without a field of its own a range is one on the key.
  | [op, bound] => ofRange? (.str key) op bound
  | _ => none

/-- The clause of the constraint on a key. -/
def ofConstraint? (key : String) (constraint : Value) : Option Clause :=
  match constraint with
  | .mapping _ | .brokenMapping _ => none
  | v => match v.sequence? with
    | some members => ofSequence? key members
    | none => some (.term key v)

/-- The clauses of constraints, in their order. -/
def ofWheres (wheres : Document) : List Clause :=
  wheres.filterMap fun e => ofConstraint? e.1 e.2

end Clause

end RecordSearch
