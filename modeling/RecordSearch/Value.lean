import RecordSearch.Binary64
import RecordSearch.Failure.Kind
import RecordSearch.Text.Codes

namespace RecordSearch

/-!
# Values

The data that requests, documents, responses and settings are made of. A mapping keeps the
order in which its keys were first given, because the order of constraints and of field
schemas shows in what is sent.

* `Value` and its views: `isTruthy`, `sequence?`, `elements?`;
* `Document`, an ordered mapping from text to values, with `get?` and `insert`;
  a key that is set again keeps its place (`keys_insert`);
* `Value.withTextKeys`, the value without surrogates in its keys;
* `Value.sameKey`, when two values are one key of a mapping or one member of a set.
-/

/-- A value. Text is Unicode text; the code points of a text with a surrogate that stands
    alone are kept apart as `brokenStr`, and a mapping with such keys as `brokenMapping`.
    `bytes` is a plain value, `buffer` a sequence. A `failure` is one that was made and may be
    raised: its kind, its arguments, and the files that a failure of the system names. -/
inductive Value where
  | null
  | bool (b : Bool)
  | int (n : Int)
  | float (x : Binary64)
  | str (s : String)
  | brokenStr (codes : List Nat)
  | bytes (bs : List UInt8)
  | buffer (bs : List UInt8)
  | list (items : List Value)
  | tuple (items : List Value)
  | set (items : List Value)
  | mapping (entries : List (String × Value))
  | brokenMapping (entries : List (List Nat × Value))
  | failure (kind : FailureKind) (args files : List Value)
deriving Inhabited, Repr

/-- A mapping from text to values, in the order in which its keys were first given. -/
abbrev Document := List (String × Value)

/-! ### Ordered mappings -/

namespace Document

/-- The value at a key. -/
def get? (d : Document) (key : String) : Option Value := d.lookup key

/-- Sets the value at a key: in place if the key is there, else at the end. -/
def insert : Document → String → Value → Document
  | [], key, value => [(key, value)]
  | (k, v) :: d, key, value =>
    if k = key then (key, value) :: d else (k, v) :: insert d key value

/-- The keys, in order. -/
def keys (d : Document) : List String := d.map Prod.fst

/-- The mapping that results from setting the entries one after the other. -/
def ofEntries (entries : List (String × Value)) : Document :=
  entries.foldl (fun d e => insert d e.1 e.2) []

/-- All entries of the second mapping set in the first. -/
def update (d e : Document) : Document := e.foldl (fun d e => insert d e.1 e.2) d

theorem get?_nil (key : String) : get? [] key = none := rfl

theorem get?_cons (k key : String) (v : Value) (d : Document) :
    get? ((k, v) :: d) key = if key = k then some v else get? d key := by
  by_cases h : key = k
  · simp [get?, h]
  · have hb : (key == k) = false := by simp [h]
    simp [get?, List.lookup_cons, h, hb]

@[simp] theorem get?_insert_self (d : Document) (key : String) (v : Value) :
    get? (insert d key v) key = some v := by
  induction d with
  | nil => simp [insert, get?_cons]
  | cons e d ih =>
    obtain ⟨k, w⟩ := e
    by_cases h : k = key
    · simp [insert, h, get?_cons]
    · simp [insert, h, get?_cons, Ne.symm h, ih]

theorem get?_insert_of_ne (d : Document) {key other : String} (v : Value) (h : other ≠ key) :
    get? (insert d key v) other = get? d other := by
  induction d with
  | nil => simp [insert, get?_cons, h, get?_nil]
  | cons e d ih =>
    obtain ⟨k, w⟩ := e
    by_cases hk : k = key
    · subst hk; simp [insert, get?_cons, h]
    · simp [insert, hk, get?_cons, ih]

/-- Setting a key that is there leaves the order of the keys as it is, and a new key comes
    last. -/
theorem keys_insert (d : Document) (key : String) (v : Value) :
    keys (insert d key v) = if key ∈ keys d then keys d else keys d ++ [key] := by
  induction d with
  | nil => simp [insert, keys]
  | cons e d ih =>
    obtain ⟨k, w⟩ := e
    by_cases h : k = key
    · simp [insert, keys, h]
    · simp only [keys, List.map_cons] at ih ⊢
      simp only [insert, h, if_false, List.map_cons, ih, List.mem_cons, Ne.symm h, false_or]
      split <;> simp_all

end Document

namespace Value

/-! ### Code points -/

/-- The text with the given code points, or the code points if one is a surrogate. -/
def ofCodes (codes : List Nat) : Value :=
  if Text.areText codes then .str (Text.ofCodes codes) else .brokenStr codes

mutual

/-- The value with the surrogates in the keys of its mappings replaced. -/
def withTextKeys : Value → Value
  | .list items => .list (allWithTextKeys items)
  | .tuple items => .tuple (allWithTextKeys items)
  | .mapping entries => .mapping (entriesWithTextKeys entries)
  | .brokenMapping entries => .mapping (Document.ofEntries (brokenWithTextKeys entries))
  | v => v

/-- The values with text as keys. -/
def allWithTextKeys : List Value → List Value
  | [] => []
  | v :: vs => v.withTextKeys :: allWithTextKeys vs

/-- The entries with text as keys of their values. -/
def entriesWithTextKeys : List (String × Value) → List (String × Value)
  | [] => []
  | (k, v) :: es => (k, v.withTextKeys) :: entriesWithTextKeys es

/-- The entries with text as keys. -/
def brokenWithTextKeys : List (List Nat × Value) → List (String × Value)
  | [] => []
  | (k, v) :: es => (Text.ofCodes k, v.withTextKeys) :: brokenWithTextKeys es

end

/-! ### Views -/

/-- Everything but nothing, false, zero and what is empty counts as true. -/
def isTruthy : Value → Bool
  | .null => false
  | .bool b => b
  | .int n => n != 0
  | .float x => !x.isZero
  | .str s => !s.isEmpty
  | .brokenStr codes => !codes.isEmpty
  | .bytes bs | .buffer bs => !bs.isEmpty
  | .list items | .tuple items | .set items => !items.isEmpty
  | .mapping entries => !entries.isEmpty
  | .brokenMapping entries => !entries.isEmpty
  | .failure .. => true

/-- The bytes as integers. -/
def ofBytes (bs : List UInt8) : List Value := bs.map fun b => .int b.toNat

/-- The members of a sequence: a list, a tuple or a buffer. Text, bytes, sets and mappings
    are no sequences. -/
def sequence? : Value → Option (List Value)
  | .list items | .tuple items => some items
  | .buffer bs => some (ofBytes bs)
  | _ => none

/-- What a walk over the value meets: the members of a sequence or a set, the characters of
    a text, the bytes as integers, the keys of a mapping. The other values have no members. -/
def elements? : Value → Option (List Value)
  | .list items | .tuple items | .set items => some items
  | .bytes bs | .buffer bs => some (ofBytes bs)
  | .str s => some (s.toList.map fun c => .str (String.ofList [c]))
  | .brokenStr codes => some (codes.map fun c => .brokenStr [c])
  | .mapping entries => some (entries.map fun e => .str e.1)
  | .brokenMapping entries => some (entries.map fun e => ofCodes e.1)
  | .null | .bool _ | .int _ | .float _ | .failure .. => none

/-- The bytes of a value that is made of bytes. -/
def bytes? : Value → Option (List UInt8)
  | .bytes bs | .buffer bs => some bs
  | _ => none

/-- Is the value a text without characters? -/
def isEmptyText : Value → Bool
  | .str s => s.isEmpty
  | .brokenStr codes => codes.isEmpty
  | _ => false

/-- The code points of a text. -/
def codes? : Value → Option (List Nat)
  | .str s => some (s.toList.map Char.toNat)
  | .brokenStr codes => some codes
  | _ => none

/-- The text that a value is. A surrogate that stands alone is replaced. -/
def str? : Value → Option String
  | .str s => some s
  | .brokenStr codes => some (Text.ofCodes codes)
  | _ => none

/-- The integers of 64 bits lie below `2 ^ 63`, and not below its negative. -/
def int64Bound : Int := 0x8000000000000000

/-- Does an integer lie within 64 bits? -/
def isInt64 (n : Int) : Bool := decide (-int64Bound ≤ n) && decide (n < int64Bound)

/-- The integer that an integer or a truth value is. -/
def integer? : Value → Option Int
  | .bool b => some (if b then 1 else 0)
  | .int n => some n
  | _ => none

/-- The entries of a mapping. Surrogates in its keys are replaced. -/
def entries? : Value → Option Document
  | .mapping entries => some entries
  | .brokenMapping entries =>
    some (Document.ofEntries (entries.map fun e => (Text.ofCodes e.1, e.2)))
  | _ => none

@[simp] theorem entries?_mapping (d : Document) : entries? (.mapping d) = some d := rfl

/-- The value at a key of a mapping; no other value has keys. -/
def get? (v : Value) (key : String) : Option Value := v.entries?.bind (·.get? key)

/-! ### Keys -/

mutual

/-- May the value be a key? Lists, sets, buffers and mappings may not. -/
def isKey : Value → Bool
  | .tuple items => areKeys items
  | .list _ | .set _ | .buffer _ | .mapping _ | .brokenMapping _ => false
  | _ => true

/-- May all values be keys? -/
def areKeys : List Value → Bool
  | [] => true
  | v :: vs => v.isKey && areKeys vs

end

/-- The integer that a number or a truth value equals. -/
def integral? : Value → Option Int
  | .bool b => some (if b then 1 else 0)
  | .int n => some n
  | .float x => x.toInt?
  | _ => none

mutual

/-- Are the values one key? Numbers and truth values are compared by what they stand for, and no
    two failures are one. -/
def sameKey : Value → Value → Bool
  | .null, .null => true
  | .str s, .str t => s == t
  | .brokenStr s, .brokenStr t => s == t
  | .bytes s, .bytes t => s == t
  | .tuple s, .tuple t => sameKeys s t
  | .float (.infinite s), .float (.infinite t) => s == t
  | .float (.finite s m e), .float (.finite t n f) =>
    -- A whole number is one however it is written; of others all parts must be the same.
    integral? (.float (.finite s m e)) == integral? (.float (.finite t n f))
      && (integral? (.float (.finite s m e)) != none || (s == t && m == n && e == f))
  | v, w => match integral? v, integral? w with
    | some a, some b => a == b
    | _, _ => false

/-- Are the values, one by one, the same keys? -/
def sameKeys : List Value → List Value → Bool
  | [], [] => true
  | v :: vs, w :: ws => v.sameKey w && sameKeys vs ws
  | _, _ => false

end

/-- Sets the entry of a key: in place, with the old key, if the key is there, else at the
    end. -/
def insertKeyed {α : Type} : List (Value × α) → Value → α → List (Value × α)
  | [], key, a => [(key, a)]
  | (k, b) :: es, key, a =>
    if k.sameKey key then (k, a) :: es else (k, b) :: insertKeyed es key a

/-- The entries that result from setting them one after the other. -/
def keyed {α : Type} (entries : List (Value × α)) : List (Value × α) :=
  entries.foldl (fun es e => insertKeyed es e.1 e.2) []

/-- A number as a quotient of integers. An infinity has the denominator zero. -/
def quotient? : Value → Option (Int × Nat)
  | .bool b => some (if b then 1 else 0, 1)
  | .int n => some (n, 1)
  | .float (.infinite negative) => some (if negative then -1 else 1, 0)
  | .float (.finite negative m e) =>
    let (num, den) := Binary64.ratio m e
    some (if negative then -num else num, den)
  | _ => none

/-- Does the first quotient lie below the second? -/
def isBelow (a b : Int × Nat) : Bool :=
  decide (a.1 * b.2 < b.1 * a.2) || (a.2 == 0 && b.2 == 0 && decide (a.1 < b.1))

/-- Two quotients compared. -/
def compareQuotients (a b : Int × Nat) : Ordering :=
  if isBelow a b then .lt else if isBelow b a then .gt else .eq

mutual

/-- The order in which members of a set are written. Numbers are compared by what they stand for
    and come before all others, texts by their characters, bytes and tuples member by member. -/
def order : Value → Value → Ordering
  | .str s, .str t => compareOfLessAndEq s t
  | .bytes s, .bytes t => compareOfLessAndEq (s.map UInt8.toNat) (t.map UInt8.toNat)
  | .tuple s, .tuple t => orders s t
  | v, w => match quotient? v, quotient? w with
    | some a, some b => compareQuotients a b
    | some _, none => .lt
    | none, some _ => .gt
    | none, none => .eq

/-- The order of members one by one: the first difference decides. -/
def orders : List Value → List Value → Ordering
  | [], [] => .eq
  | [], _ :: _ => .lt
  | _ :: _, [] => .gt
  | v :: vs, w :: ws => (v.order w).then (orders vs ws)

end

/-- The set of the given members, each once, in rising order. -/
def setOf (members : List Value) : Value :=
  .set (((keyed (members.map fun v => (v, ()))).map Prod.fst).mergeSort
    fun v w => (v.order w).isLE)

/-- Have the members of a set an order among them? Numbers have, and so have texts, but not both
    together and no other values; one member alone needs none. -/
def areOrdered (members : List Value) : Bool :=
  members.length < 2 || members.all (fun v => v.quotient?.isSome)
    || members.all fun v => match v with
      | .str _ | .brokenStr _ => true
      | _ => false

mutual

/-- Can the value be written down? The members of all sets inside it must have an order, and no
    failure may be inside it. -/
def isWritable : Value → Bool
  | .list items | .tuple items => areWritable items
  | .set items => areOrdered items && areWritable items
  | .mapping entries => areWritableEntries entries
  | .brokenMapping entries => areWritableBroken entries
  | .failure .. => false
  | _ => true

/-- Can all values be written down? -/
def areWritable : List Value → Bool
  | [] => true
  | v :: vs => v.isWritable && areWritable vs

/-- Can the values of all entries be written down? -/
def areWritableEntries : List (String × Value) → Bool
  | [] => true
  | (_, v) :: es => v.isWritable && areWritableEntries es

/-- Can the values of all entries whose keys are given by code points be written down? -/
def areWritableBroken : List (List Nat × Value) → Bool
  | [] => true
  | (_, v) :: es => v.isWritable && areWritableBroken es

end

end Value

end RecordSearch
