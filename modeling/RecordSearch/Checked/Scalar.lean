import RecordSearch.Checked.Numeral
import RecordSearch.Value.Text

namespace RecordSearch.Checked

/-!
# Checks of single values

A field takes what plainly stands for a value of its kind: a number may be given as text, a
truth value as a word, text as bytes in UTF-8. What does not is a fault that names the kind.

* `text`, `nonemptyText`; `optional` lets nothing pass any check;
* `integer`, `natural`: integers may be given as numbers without fraction or as text;
* `number`, `positiveNumber`: binary64 numbers;
* `truthValue`, `mapping`, `listOf`.
-/

variable {α : Type}

/-- The text that bytes hold in UTF-8. -/
def textOfBytes? (bs : List UInt8) : Option String := String.fromUTF8? ⟨bs.toArray⟩

/-! ### Text -/

/-- Text, or bytes that hold text. In a text with a surrogate that stands alone the surrogate is
    replaced. -/
def text : Value → Checked String
  | .str s => .valid s
  | .brokenStr codes => .valid (Value.text (.brokenStr codes))
  | .bytes bs | .buffer bs =>
    match textOfBytes? bs with
    | some s => .valid s
    | none => fail .textNotUnicode
  | _ => fail .notText

@[simp] theorem text_str (s : String) : text (.str s) = .valid s := rfl

/-- Nothing, or else what `check` takes. -/
def optional (check : Value → Checked α) : Value → Checked (Option α)
  | .null => .valid none
  | v => some <$> check v

/-- Text that is not empty. Its characters are counted, so that no surrogate may be in it. -/
def nonemptyText : Value → Checked String
  | .brokenStr _ => fail .textNotUnicode
  | v => (text v).andThen fun s => if s.isEmpty then fail .textTooShort else .valid s

/-! ### Integers -/

/-- The integer that a number stands for; it must lie within 64 bits. -/
def integerOfFloat (x : Binary64) : Checked Int :=
  if !x.isFinite then fail .notFinite
  else match x.toInt? with
    | none => fail .integerWithFraction
    | some n =>
      -- The lowest integer of 64 bits is taken for one beyond them.
      if Value.isInt64 n && n != -Value.int64Bound then .valid n else fail .integerTooLarge

/-- An integer. -/
def integer : Value → Checked Int
  | .int n => .valid n
  | .bool b => .valid (if b then 1 else 0)
  | .float x => integerOfFloat x
  | .str s => integerOfText s.toList
  | .brokenStr _ => fail .textNotUnicode
  | .bytes bs =>
    match textOfBytes? bs with
    | some s => integerOfText s.toList
    | none => fail .unreadableInteger
  | _ => fail .notInteger

@[simp] theorem integer_int (n : Int) : integer (.int n) = .valid n := rfl

/-- An integer that is not negative. -/
def natural (v : Value) : Checked Nat :=
  (integer v).andThen fun n => if 0 ≤ n then .valid n.toNat else fail .notAtLeast

theorem natural_natCast (n : Nat) : natural (.int n) = .valid n := by
  simp [natural, andThen]

/-! ### Numbers -/

/-- A binary64 number. -/
def number : Value → Checked Binary64
  | .float x => .valid x
  | .bool b => .valid (if b then Binary64.ofRatio false 1 1 else Binary64.zero)
  | .int n =>
    match Binary64.ofInt? n with
    | some x => .valid x
    | none => fail .notNumber
  | .str s => numberOfText s.toList
  | .brokenStr _ => fail .textNotUnicode
  | .bytes bs =>
    match textOfBytes? bs with
    | some s => numberOfText s.toList
    | none => fail .unreadableNumber
  | _ => fail .notNumber

/-- A binary64 number greater than zero. -/
def positiveNumber (v : Value) : Checked Binary64 :=
  (number v).andThen fun x => if x.isPositive then .valid x else fail .notGreater

/-! ### Truth values -/

/-- The truth value that a word stands for, in any case of its ASCII letters. -/
def truthOfText (cs : List Char) : Checked Bool :=
  let word := String.ofList (asciiLower cs)
  if ["0", "off", "f", "false", "n", "no"].contains word then .valid false
  else if ["1", "on", "t", "true", "y", "yes"].contains word then .valid true
  else fail .unreadableTruthValue

/-- The truth value that an integer within 64 bits stands for. -/
def truthOfInt (n : Int) : Checked Bool :=
  if n = 0 then .valid false
  else if n = 1 then .valid true
  else if Value.isInt64 n then fail .unreadableTruthValue
  else fail .notTruthValue

/-- A truth value. -/
def truthValue : Value → Checked Bool
  | .bool b => .valid b
  | .int n => truthOfInt n
  | .float x =>
    match x.toInt? with
    | some n => if n = -Value.int64Bound then fail .notTruthValue else truthOfInt n
    | none => fail .notTruthValue
  | .str s => truthOfText s.toList
  | .brokenStr _ => fail .textNotUnicode
  | .bytes bs =>
    match textOfBytes? bs with
    | some s => truthOfText s.toList
    | none => fail .unreadableTruthValue
  | _ => fail .notTruthValue

/-! ### Mappings and lists -/

/-- A mapping from text to any values. -/
def mapping : Value → Checked Document
  | .mapping entries => .valid entries
  | _ => fail .notMapping

@[simp] theorem mapping_mapping (d : Document) : mapping (.mapping d) = .valid d := rfl

/-- The members of a list, a tuple or a set. -/
def members? : Value → Option (List Value)
  | .list items | .tuple items | .set items => some items
  | _ => none

/-- A list whose members pass a check. -/
def listOf (check : Value → Checked α) (v : Value) : Checked (List α) :=
  match members? v with
  | some items => all check items
  | none => fail .notList

end RecordSearch.Checked
