import RecordSearch.Yaml.Scalar

namespace RecordSearch.Yaml

/-!
# Values in brackets and quotes

A YAML text whose lists and mappings are written in brackets, whose keys are texts in double
quotes, and whose other texts are in double quotes or plain words. A key must stand on one line
and be short, or else the colon after it stands without a key.

* `isPrintable`: the characters that may stand in a text;
* `readNode`, `readItems`, `readEntries`: the symbols of the grammar. Their first argument
  bounds the depth of the calls;
* `read`: the value of a whole text.
-/

/-- May the character stand in a text? -/
def isPrintable (c : Char) : Bool :=
  let n := c.toNat
  n == 0x09 || n == 0x0A || n == 0x0D || (decide (0x20 ≤ n) && decide (n ≤ 0x7E)) || n == 0x85
    || (decide (0xA0 ≤ n) && decide (n ≤ 0xD7FF))
    || (decide (0xE000 ≤ n) && decide (n ≤ 0xFFFD)) || decide (0x10000 ≤ n)

/-- Why a text is not read, with the numbers of characters from the places to the end. -/
inductive Fault where
  | separator (start place : Nat)
  | looseColon (start place : Nat)
  | malformed

/-- The most characters from the start of a key to its colon. -/
def keyLimit : Nat := 1024

/-- Without what stands apart at the start. -/
def skipApart (cs : List Char) : List Char := cs.dropWhile isApart

/-- Is the character part of a plain word? -/
def isWordChar (c : Char) : Bool := !isApart c && !"[]\x7b\x7d,:\"".toList.contains c

/-- A text in double quotes after its opening quote, and the text after it. -/
def readText (cs : List Char) : Except Fault (List Nat × List Char) :=
  match readQuoted [] cs with
  | .ok read => .ok read
  | .error (.separator left) => .error (.separator (cs.length + 1) left)
  | .error .malformed => .error .malformed

/-- Are the characters from the start of a key to its colon those of a key? -/
def isKey (cs : List Char) : Bool := decide (cs.length ≤ keyLimit) && !cs.any isBreak

mutual

/-- A value at the start of a text. -/
def readNode : (fuel : Nat) → List Char → Except Fault (Value × List Char)
  | 0, _ => .error .malformed
  | _ + 1, '"' :: cs => do
    let (codes, rest) ← readText cs
    return (Value.ofCodes codes, rest)
  | fuel + 1, '[' :: cs =>
    match skipApart cs with
    | ']' :: rest => .ok (.list [], rest)
    | start => do
      let (items, rest) ← readItems fuel start
      return (.list items, rest)
  | fuel + 1, '{' :: cs =>
    match skipApart cs with
    | '}' :: rest => .ok (.mapping [], rest)
    | start => do
      let (entries, rest) ← readEntries fuel (cs.length + 1) start
      return (.mapping (Document.ofEntries entries), rest)
  | _ + 1, cs =>
    match cs.takeWhile isWordChar with
    | [] => .error .malformed
    | word => .ok (ofWord word, cs.dropWhile isWordChar)

/-- The items of a list up to its closing bracket. -/
def readItems : (fuel : Nat) → List Char → Except Fault (List Value × List Char)
  | 0, _ => .error .malformed
  | fuel + 1, cs => do
    let (item, rest) ← readNode fuel cs
    match skipApart rest with
    | ']' :: rest => return ([item], rest)
    | ',' :: rest =>
      let (items, rest) ← readItems fuel (skipApart rest)
      return (item :: items, rest)
    | _ => .error .malformed

/-- The entries of a mapping up to its closing brace. The second argument is the number of
    characters from the opening brace to the end. -/
def readEntries : (fuel start : Nat) → List Char →
    Except Fault (List (String × Value) × List Char)
  | 0, _, _ => .error .malformed
  | fuel + 1, start, '"' :: cs => do
    let (codes, rest) ← readText cs
    match skipApart rest with
    | ':' :: rest =>
      let key := ('"' :: cs).take (cs.length - rest.length)
      -- The colon must come soon after the start of the key, on the same line.
      if !isKey key then throw (.looseColon start (rest.length + 1))
      let (value, rest) ← readNode fuel (skipApart rest)
      let entry := (Text.ofCodes codes, value)
      match skipApart rest with
      | '}' :: rest => return ([entry], rest)
      | ',' :: rest =>
        let (entries, rest) ← readEntries fuel start (skipApart rest)
        return (entry :: entries, rest)
      | _ => .error .malformed
    | _ => .error .malformed
  | _ + 1, _, _ => .error .malformed

end

/-- The place in a text before its last characters. -/
def Mark.before (cs : List Char) (left : Nat) : Mark := Mark.after (cs.take (cs.length - left))

/-- The problem that a fault of a text is. -/
def Fault.problem (cs : List Char) : Fault → Problem
  | .separator start place => .separator (.before cs start) (.before cs place)
  | .looseColon start place => .looseColon (.before cs start) (.before cs place)
  | .malformed => .notFlow

/-- The value of a whole text. -/
def readChars (cs : List Char) : Except Problem Value :=
  match cs.findIdx? fun c => !isPrintable c with
  | some position => .error (.unprintable ((cs[position]?).elim 0 Char.toNat) position)
  | none =>
    match readNode (2 * cs.length + 2) (skipApart cs) with
    | .error fault => .error (fault.problem cs)
    | .ok (v, rest) => if (skipApart rest).isEmpty then .ok v else .error .notFlow

/-- The value of a whole text. -/
def read (text : String) : Except Problem Value := readChars text.toList

end RecordSearch.Yaml
