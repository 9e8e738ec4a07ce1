import RecordSearch.Checked.Numeral
import RecordSearch.Json.Writer
import RecordSearch.Platform
import RecordSearch.Settings.Arguments.Words
import RecordSearch.Text.Blank

namespace RecordSearch

/-!
# Texts in parts

The flag of a setting that holds more than one value may be given several times, each time with
one or more parts between commas, or with the JSON text of a list around them. The parts are
merged to one JSON text.

* `nextPart`, `partsOf`: how texts are taken apart;
* `mergeTexts`, `mergeEntries`: the JSON text of a list and of a mapping that is given in parts.
-/

/-- The texts that are taken from the words so far, and whether a value came last, and no comma. -/
structure Parts where
  texts : List String
  endsWithValue : Bool

/-- A comma ends a value; without a value before it there is an empty text. -/
def Parts.comma (parts : Parts) : Parts :=
  ⟨if parts.endsWithValue then parts.texts else parts.texts ++ ["\"\""], false⟩

/-- A list or a mapping at the start of a text, up to the bracket that closes it, and the text
    after it. Brackets inside quotes do not count. -/
def spanNested (close : Char) : (depth : Int) → (quoted : Bool) → (last : Char) → List Char →
    Option (List Char × List Char)
  | _, _, _, [] => none
  | depth, quoted, last, c :: cs =>
    let onward (depth : Int) (quoted : Bool) :=
      (spanNested close depth quoted c cs).map fun (part, rest) => (c :: part, rest)
    if c = '"' && last != '\\' then onward depth !quoted
    else if quoted then onward depth quoted
    else if c = '\x7b' || c = '[' then onward (depth + 1) quoted
    else if c = '\x7d' || c = ']' then
      -- Any closing sign closes a level, but only the right one ends the whole.
      if c = close && depth = 1 then some ([c], cs) else onward (depth - 1) quoted
    else onward depth quoted

/-- The text up to a comma outside quotes, the text after it, and whether a quote is still
    open at the end. -/
def spanPlain : (quoted : Bool) → (last : Char) → List Char → List Char × List Char × Bool
  | quoted, _, [] => ([], [], quoted)
  | quoted, last, c :: cs =>
    let quoted := if c = '"' && last != '\\' then !quoted else quoted
    if c = ',' && !quoted then ([], c :: cs, quoted)
    else
      let (part, rest, quoted) := spanPlain quoted c cs
      (c :: part, rest, quoted)

/-- A text with each backslash written twice. -/
def doubleBackslashes (cs : List Char) : List Char :=
  cs.flatMap fun c => if c = '\\' then ['\\', '\\'] else [c]

/-- Do all underscores stand between digits? -/
def groupsDigits : (last : Char) → List Char → Bool
  | last, '_' :: c :: cs => last.isDigit && c.isDigit && groupsDigits c cs
  | _, ['_'] => false
  | _, c :: cs => groupsDigits c cs
  | _, [] => true

/-- Does the text write a number, in the digits of any script? -/
def writesNumber (cs : List Char) : Bool :=
  let plain := cs.map fun c => (Text.digitValue? c.toNat).elim c Nat.digitChar
  groupsDigits ' ' plain && (Checked.binary64OfText (plain.filter (· != '_'))).isSome

/-- A text as a member of a list: words for values are taken as they are, and any other text is
    one between quotes, which may be there already. A number does not stand for nothing. -/
def listMember (nullText : Option (List Nat)) (cs : List Char) : Except String String :=
  let isNull := some (cs.map Char.toNat) == nullText && !writesNumber cs
  let text := if isNull then "null" else String.ofList cs
  .ok (if text = "true" || text = "false" || text = "null" || cs.head? == some '"' then text
    else "\"" ++ text ++ "\"")

/-- Without the quotes at both ends. -/
def unquoted (cs : List Char) : List Char :=
  ((cs.dropWhile (· == '"')).reverse.dropWhile (· == '"')).reverse

/-- A text as an entry of a mapping: a key and a text with an equality sign between them. -/
def mappingEntry (cs : List Char) : Except String String :=
  let key := cs.takeWhile (· != '=')
  match cs.drop key.length with
  | [] => .error "not enough values to unpack (expected 2, got 1)"
  | _ :: text =>
    if key.head? == some '"' && key.getLast? != some '"' && text.head? != some '"'
        && text.getLast? == some '"' then
      .error ("Dictionary key=val parameter is a quoted string: " ++ String.ofList cs)
    else .ok (Json.write (.mapping [(String.ofList (unquoted key),
      .str (String.ofList (unquoted text)))]))

/-- The next part of a text that is neither empty nor starts with spaces or a comma: a list or a
    mapping, or the text up to a comma. The text after it is left. -/
def nextPart (member : List Char → Except String String) (cs : List Char) :
    Except String (String × List Char) :=
  let plain : Except String (String × List Char) :=
    match spanPlain false ' ' cs with
    | (_, _, true) => .error "Mismatched quotes"
    | (part, rest, false) => (·, rest) <$> member (Text.trimSpace part)
  match cs with
  | [] => plain
  | c :: rest =>
    if c = '\x7b' || c = '[' then
      let close := if c = '\x7b' then '\x7d' else ']'
      match spanNested close 1 false c rest with
      | some (part, rest) => .ok (String.ofList (c :: part), rest)
      | none => .error ("Missing end delimiter \"" ++ String.singleton close ++ "\"")
    else plain

/-- The parts of one text, one after the other. The first argument bounds their number. -/
def takeParts (member : List Char → Except String String) :
    (fuel : Nat) → Parts → List Char → Except String Parts
  | 0, parts, _ => .ok parts
  | _, parts, [] => .ok parts
  | fuel + 1, parts, c :: cs =>
    match Text.trimSpace (c :: cs) with
    | ',' :: rest => takeParts member fuel parts.comma rest
    | start => do
      let (text, rest) ← nextPart member start
      takeParts member fuel ⟨parts.texts ++ [text], true⟩ rest

/-- What stands between the brackets of a list, if the text is that of a list. -/
def insideBrackets? (cs : List Char) : Option (List Char) :=
  match Text.trimSpace cs with
  | '[' :: rest => if rest.getLast? == some ']' then some (Text.trimSpace rest.dropLast) else none
  | _ => none

/-- The parts of one more text. An empty list has none; any other text that ends without a value
    ends with an empty one. -/
def Parts.add (member : List Char → Except String String) (parts : Parts) (text : String) :
    Except String Parts := do
  let cs := text.toList
  let inside := insideBrackets? cs
  if inside == some [] then return parts
  let cs := inside.getD (Text.trimSpace cs)
  let parts ← takeParts member (cs.length + 1) parts cs
  -- A comma at the end, or no text at all, leaves room for an empty one.
  return if parts.endsWithValue then parts else parts.comma

/-- The parts of all texts of a flag. -/
def partsOf (member : List Char → Except String String) (texts : List String) :
    Except String (List String) :=
  Parts.texts <$> texts.foldlM (Parts.add member) ⟨[], false⟩

/-- The JSON text of the list that is given in parts. A backslash stands for itself. -/
def mergeTexts (nullText : Option (List Nat)) (texts : List String) : Except String String := do
  let parts ← partsOf (listMember nullText) texts
  return "[" ++ ",".intercalate (parts.map fun part =>
    String.ofList (doubleBackslashes part.toList)) ++ "]"

/-! ### Mappings -/

/-- The entry that a member of a list with the given position stands for. -/
def entryOfMember (position : Nat) (member : Value) : Except String (Value × Value) :=
  match member.elements? with
  | none =>
    .error ("cannot convert dictionary update sequence element #" ++ toString position
      ++ " to a sequence")
  | some [key, v] =>
    if key.isKey then .ok (key, v) else .error ("unhashable type: '" ++ key.typeName ++ "'")
  | some members =>
    .error ("dictionary update sequence element #" ++ toString position ++ " has length "
      ++ toString members.length ++ "; 2 is required")

/-- The entries that the members of a list stand for, where the first one has the given
    position. -/
def entriesOfMembers : Nat → List Value → Except String (List (Value × Value))
  | _, [] => .ok []
  | position, v :: vs => do
    let entry ← entryOfMember position v
    let entries ← entriesOfMembers (position + 1) vs
    return entry :: entries

/-- The entries that the JSON text of a mapping holds, or of a list of keys with values. -/
def entriesOfText [Platform] (text : String) : Except String (List (Value × Value)) :=
  match Value.withTextKeys <$> Json.readChars Platform.partDepth text.toList with
  | .ok (.mapping d) => .ok (d.map fun e => (.str e.1, e.2))
  | .ok v => entriesOfMembers 0 (v.elements?.getD [])
  | .error problem => .error (problem.message text.toList)

/-- The JSON text of the mapping that is given in parts. -/
def mergeEntries [Platform] (texts : List String) : Except String String := do
  let entries ← (← partsOf mappingEntry texts).mapM entriesOfText
  return Json.write (.mapping (Document.ofEntries
    ((Value.keyed entries.flatten).map fun e => (Json.keyText e.1, e.2))))

end RecordSearch
