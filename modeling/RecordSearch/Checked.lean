import RecordSearch.Value

namespace RecordSearch

/-!
# Checked values

Data from outside is checked field by field. A check answers with a value or with all
faults that it found, in the order of the fields, each with the path that leads to it.

* `Fault`: a path and a kind, with the text that messages give;
* `Checked`: an applicative, so that checks side by side collect their faults;
* `Checked.field`: the check of a field of a mapping, and `Checked.all` that of the members
  of a list.
-/

/-- One step of a path: into a field of a mapping or into a member of a list. -/
inductive PathStep where
  | field (name : String)
  | item (index : Nat)
deriving DecidableEq, Repr

/-- What can be wrong with a value. -/
inductive FaultKind where
  | missing
  | notText
  | textTooShort
  | textNotUnicode
  | notInteger
  | unreadableInteger
  | integerTooLarge
  | integerWithFraction
  | notFinite
  | notAtLeast
  | notNumber
  | unreadableNumber
  | notGreater
  | notTruthValue
  | unreadableTruthValue
  | notMapping
  | notList
  | notTuple
  | tooLong
  | notFields
  | notRecordType
  | notCallable
  | frozen
  | unknownAction
  | noAction
  | notOperation
  | unknownField
  | badValue
deriving DecidableEq, Repr

/-- The name of a kind of fault in messages. -/
def FaultKind.name : FaultKind → String
  | .missing => "missing"
  | .notText => "string_type"
  | .textTooShort => "string_too_short"
  | .textNotUnicode => "string_unicode"
  | .notInteger => "int_type"
  | .unreadableInteger => "int_parsing"
  | .integerTooLarge => "int_parsing_size"
  | .integerWithFraction => "int_from_float"
  | .notFinite => "finite_number"
  | .notAtLeast => "greater_than_equal"
  | .notNumber => "float_type"
  | .unreadableNumber => "float_parsing"
  | .notGreater => "greater_than"
  | .notTruthValue => "bool_type"
  | .unreadableTruthValue => "bool_parsing"
  | .notMapping => "dict_type"
  | .notList => "list_type"
  | .notTuple => "tuple_type"
  | .tooLong => "too_long"
  | .notFields => "model_type"
  | .notRecordType => "is_subclass_of"
  | .notCallable => "callable_type"
  | .frozen => "frozen_instance"
  | .unknownAction => "union_tag_invalid"
  | .noAction => "union_tag_not_found"
  | .notOperation => "model_attributes_type"
  | .unknownField => "extra_forbidden"
  | .badValue => "value_error"

/-- A fault and where it was found. -/
structure Fault where
  path : List PathStep
  kind : FaultKind
deriving DecidableEq, Repr

/-- A step as messages give it. -/
def PathStep.text : PathStep → String
  | .field name => name
  | .item index => toString index

/-- A fault as messages give it: the path with points between its steps, and the kind. -/
def Fault.text (fault : Fault) : String :=
  ".".intercalate (fault.path.map PathStep.text) ++ ": " ++ fault.kind.name

/-- All faults in one message. -/
def Fault.message (faults : List Fault) : String :=
  "; ".intercalate (faults.map Fault.text)

/-- A value that passed its check, or the faults that were found. -/
inductive Checked (α : Type) where
  | valid (a : α)
  | invalid (faults : List Fault)
deriving Repr

namespace Checked

variable {α β : Type}

/-- Applies a function to a value that passed. -/
def map (f : α → β) : Checked α → Checked β
  | .valid a => .valid (f a)
  | .invalid fs => .invalid fs

/-- Two checks side by side: the faults of both, the first ones first. -/
def apply (f : Checked (α → β)) (a : Unit → Checked α) : Checked β :=
  match f, a () with
  | .valid f, .valid a => .valid (f a)
  | .valid _, .invalid fs => .invalid fs
  | .invalid fs, .valid _ => .invalid fs
  -- The second check is made even if the first one found faults.
  | .invalid fs, .invalid gs => .invalid (fs ++ gs)

instance : Applicative Checked where
  pure := .valid
  map := map
  seq := apply

@[simp] theorem map_valid (f : α → β) (a : α) : f <$> Checked.valid a = .valid (f a) := rfl

@[simp] theorem map_invalid (f : α → β) (fs : List Fault) :
    f <$> (Checked.invalid fs : Checked α) = .invalid fs := rfl

@[simp] theorem seq_valid_valid (f : α → β) (a : α) :
    Checked.valid f <*> Checked.valid a = .valid (f a) := rfl

@[simp] theorem seq_valid_invalid (f : α → β) (fs : List Fault) :
    Checked.valid f <*> Checked.invalid fs = .invalid fs := rfl

@[simp] theorem seq_invalid_valid (fs : List Fault) (a : α) :
    (Checked.invalid fs : Checked (α → β)) <*> Checked.valid a = .invalid fs := rfl

@[simp] theorem seq_invalid_invalid (fs gs : List Fault) :
    (Checked.invalid fs : Checked (α → β)) <*> Checked.invalid gs = .invalid (fs ++ gs) := rfl

/-- The fault of a value as a whole. -/
def fail (kind : FaultKind) : Checked α := .invalid [⟨[], kind⟩]

/-- A second check of a value that passed the first. -/
def andThen (a : Checked α) (check : α → Checked β) : Checked β :=
  match a with
  | .valid a => check a
  | .invalid fs => .invalid fs

/-- Faults inside a part of a value lie one step further away. -/
def inside (step : PathStep) : Checked α → Checked α
  | .valid a => .valid a
  | .invalid fs => .invalid (fs.map fun f => { f with path := step :: f.path })

@[simp] theorem inside_valid (step : PathStep) (a : α) : inside step (.valid a) = .valid a := rfl

/-- The check of a field: `absent` tells what a field that is not given stands for. -/
def field (name : String) (given : Option Value) (absent : Checked α)
    (check : Value → Checked α) : Checked α :=
  inside (.field name) ((given.map check).getD absent)

/-- The check of members from the given position on. -/
def allFrom (check : Value → Checked α) : Nat → List Value → Checked (List α)
  | _, [] => .valid []
  | index, v :: vs =>
    List.cons <$> inside (.item index) (check v) <*> allFrom check (index + 1) vs

/-- The check of all members of a list. -/
def all (check : Value → Checked α) (vs : List Value) : Checked (List α) := allFrom check 0 vs

end Checked

end RecordSearch
