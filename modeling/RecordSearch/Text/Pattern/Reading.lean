import RecordSearch.Text.CharacterName
import RecordSearch.Text.Codes
import RecordSearch.Text.Identifier
import RecordSearch.Text.Parts
import RecordSearch.Text.Pattern
import RecordSearch.Text.Quoted

namespace RecordSearch.Text

/-!
# The text of a pattern

Most characters of the text of a pattern stand for themselves. Brackets, points, bars, signs of
repetition and backslashes have meanings of their own.

* `PatternProblem`, `PatternProblem.message`: why a text is no pattern;
* `Pattern.ofCodes`: the pattern with a text.
-/

/-- Why a text is no pattern: a reason with the position where it shows, if it shows at one, or a
    number of repetitions that is too large. -/
inductive PatternProblem where
  | flawed (reason : String) (position : Option Nat)
  | tooManyTimes
deriving DecidableEq, Repr

/-- What is said about a problem of a text. If the text has lines, the line is named. -/
def PatternProblem.message (codes : List Nat) : PatternProblem → String
  | .tooManyTimes => "the repetition number is too large"
  | .flawed reason none => reason
  | .flawed reason (some position) =>
    let before := codes.take position
    let line := before.count 0x0A + 1
    let column := (before.reverse.takeWhile (· != 0x0A)).length + 1
    reason ++ " at position " ++ toString position
      ++ if codes.contains 0x0A then
          " (line " ++ toString line ++ ", column " ++ toString column ++ ")"
        else ""

/-! ### Symbols -/

/-- A symbol of a text: a character, or a backslash with the character behind it. -/
structure Symbol where
  position : Nat
  codes : List Nat

/-- The symbols of a text from a position on. A backslash at the end is one alone. -/
def symbolsOf : (position : Nat) → List Nat → List Symbol
  | _, [] => []
  | position, 0x5C :: code :: codes =>
    ⟨position, [0x5C, code]⟩ :: symbolsOf (position + 2) codes
  | position, code :: codes => ⟨position, [code]⟩ :: symbolsOf (position + 1) codes

/-- Least and greatest lengths of the texts that match. -/
abbrev Width := Nat × Nat

/-- No length is counted beyond this one. -/
def widthLimit : Nat := 0x10000000000000000

/-- A piece with its lengths. -/
structure Piece where
  pattern : Pattern
  width : Width

/-- The lengths of pieces one after the other. -/
def widthOf (pieces : List Piece) : Width :=
  let sum (part : Width → Nat) : Nat :=
    pieces.foldr (fun piece total => part piece.width + total) 0
  (Nat.min (sum Prod.fst) widthLimit, Nat.min (sum Prod.snd) widthLimit)

/-- A text while it is read: the symbols that are left, the length of all, the lengths of groups by
    their numbers, which open groups do not have yet, the names of groups, the number of groups
    before what must have come before a place, and groups that are mentioned with the positions. -/
structure PatternReading where
  symbols : List Symbol
  length : Nat
  groups : List (Option Width)
  names : List (List Nat × Nat)
  earlierGroups : Option Nat
  mentioned : List (Nat × Nat)
  /-- Can the length of what must have come before a place vary? -/
  variesBehind : Bool

/-- A step of reading. -/
abbrev PatternReader := StateT PatternReading (Except PatternProblem)

namespace PatternReader

/-- The position of the next symbol. -/
def position : PatternReader Nat := do
  let reading ← get
  return (reading.symbols.head?.map Symbol.position).getD reading.length

/-- Ends with a problem so many characters before the next symbol. -/
def problem {α : Type} (reason : String) (earlier : Nat) : PatternReader α := do
  throw (.flawed reason (some ((← position) - earlier)))

/-- The next symbol. -/
def next? : PatternReader (Option (List Nat)) := return (← get).symbols.head?.map Symbol.codes

/-- Takes the next symbol. -/
def take? : PatternReader (Option (List Nat)) := do
  let symbol ← next?
  modify fun reading => { reading with symbols := reading.symbols.drop 1 }
  return symbol

/-- Takes the next symbol if it is a character. -/
def accept (c : Char) : PatternReader Bool := do
  if (← next?) = some [c.toNat] then
    let _ ← take?
    return true
  return false

/-- Takes characters of a kind, at most so many. -/
def takeWhile (holds : Char → Bool) : (count : Nat) → PatternReader (List Char)
  | 0 => return []
  | count + 1 => do
    match ← next? with
    | some [code] =>
      if code < 0x80 && holds (Char.ofNat code) then
        let _ ← take?
        return Char.ofNat code :: (← takeWhile holds count)
      return []
    | _ => return []

/-- Takes all symbols up to a character, and the character. The first argument bounds their
    number. -/
def takeUntil (stop : Char) (name : String) :
    (fuel : Nat) → (taken : List Nat) → PatternReader (List Nat)
  | 0, taken => return taken
  | fuel + 1, taken => do
    match ← take? with
    | none =>
      if taken.isEmpty then problem ("missing " ++ name) 0
      else problem ("missing " ++ String.singleton stop ++ ", unterminated name") taken.length
    | some symbol =>
      if symbol = [stop.toNat] then
        if taken.isEmpty then problem ("missing " ++ name) 1 else return taken
      else takeUntil stop name fuel (taken ++ symbol)

/-- Takes a name up to a character. -/
def takeName (stop : Char) (name : String) : PatternReader (List Nat) := do
  takeUntil stop name ((← get).symbols.length + 1) []

end PatternReader

open PatternReader

/-! ### Escapes -/

/-- What a symbol behind a backslash stands for. -/
inductive Escaped where
  | member (member : Member)
  | edge (edge : Edge)
  | again (group : Nat)

/-- Is the character a digit to the base sixteen? -/
def isHexDigit (c : Char) : Bool := c.isDigit || ('a' ≤ c && c ≤ 'f') || ('A' ≤ c && c ≤ 'F')

/-- Is the character a digit to the base eight? -/
def isOctalDigit (c : Char) : Bool := '0' ≤ c && c ≤ '7'

/-- The value of a digit. -/
def digitValue (c : Char) : Nat :=
  if c.isDigit then c.toNat - 0x30
  else if 'a' ≤ c then c.toNat - 0x57
  else c.toNat - 0x37

/-- The value of digits. -/
def valueOf (base : Nat) (digits : List Char) : Nat :=
  digits.foldl (fun n c => n * base + digitValue c) 0

/-- The control character with a letter. -/
def controlCode? (c : Char) : Option Nat :=
  match c with
  | 'a' => some 0x07
  | 'f' => some 0x0C
  | 'n' => some 0x0A
  | 'r' => some 0x0D
  | 't' => some 0x09
  | 'v' => some 0x0B
  | '\\' => some 0x5C
  | _ => none

/-- The kind of characters with a letter. -/
def kindOf? (c : Char) : Option Member :=
  match c with
  | 'd' => some (.kind .digit false)
  | 'D' => some (.kind .digit true)
  | 's' => some (.kind .space false)
  | 'S' => some (.kind .space true)
  | 'w' => some (.kind .word false)
  | 'W' => some (.kind .word true)
  | _ => none

/-- The place with a letter. -/
def edgeOf? (c : Char) : Option Edge :=
  match c with
  | 'A' => some .textStart
  | 'Z' => some .textStop
  | 'b' => some (.word false)
  | 'B' => some (.word true)
  | _ => none

/-- The text of an escape. -/
def escapeText (c : Char) (rest : List Char) : String := String.ofList ('\\' :: c :: rest)

/-- An escape by a number with so many digits. -/
def readNumbered (c : Char) (count : Nat) : PatternReader Member := do
  let digits ← takeWhile isHexDigit count
  let text := escapeText c digits
  if digits.length < count then problem ("incomplete escape " ++ text) text.length
  let code := valueOf 16 digits
  if 0x110000 ≤ code then problem ("bad escape " ++ text) text.length
  return .code code

/-- An escape by the name of a character between braces. -/
def readNamed : PatternReader Member := do
  if !(← accept '\x7b') then problem "missing \x7b" 0
  let name ← takeName '\x7d' "character name"
  let code? := if Text.areText name then codeOfName? (Text.ofCodes name) else none
  match code? with
  | some code => return .code code
  | none => problem ("undefined character name " ++ quoteCodes name) (name.length + 4)

/-- What an escape stands for that means the same everywhere: a number, a name, or a character that
    is no letter. -/
def readPlainEscape (c : Char) : PatternReader Member := do
  match c with
  | 'x' => readNumbered 'x' 2
  | 'u' => readNumbered 'u' 4
  | 'U' => readNumbered 'U' 8
  | 'N' => readNamed
  | c =>
    if c.isAlpha || c.isDigit then problem ("bad escape " ++ escapeText c []) 2
    else return .code c.toNat

/-- An escape inside a set. -/
def readMemberEscape (code : Nat) : PatternReader Member := do
  if !code.isValidChar then return .code code
  let c := Char.ofNat code
  -- Inside a set the letter is that of a character, and stands for no edge.
  match if c = 'b' then some 0x08 else controlCode? c, kindOf? c with
  | some code, _ => return .code code
  | none, some kind => return kind
  | none, none =>
    if isOctalDigit c then
      let digits := c :: (← takeWhile isOctalDigit 2)
      let text := String.ofList ('\\' :: digits)
      if 0x100 ≤ valueOf 8 digits then
        problem ("octal escape value " ++ text ++ " outside of range 0-0o377") text.length
      return .code (valueOf 8 digits)
    else readPlainEscape c

/-- A group must be closed to be mentioned, and must come before what must have come before a
    place. -/
def checkEarlier (group : Nat) : PatternReader Unit := do
  let reading ← get
  match reading.earlierGroups with
  | none => return
  | some count =>
    if ((reading.groups[group]?).bind id).isNone then problem "cannot refer to an open group" 0
    if count ≤ group then
      problem "cannot refer to group defined in the same lookbehind subpattern" 0

/-- An escape by digits: a number to the base eight if there are three of them, and else a group. -/
def readDigits (first : Char) : PatternReader Escaped := do
  let second ← takeWhile Char.isDigit 1
  let third ←
    if isOctalDigit first && !second.isEmpty && second.all isOctalDigit then
      takeWhile isOctalDigit 1
    else pure []
  let digits := first :: second ++ third
  let text := String.ofList ('\\' :: digits)
  if third.isEmpty then
    let group := valueOf 10 digits
    match (← get).groups[group]? with
    | none => problem ("invalid group reference " ++ toString group) digits.length
    | some none => problem "cannot refer to an open group" text.length
    | some (some _) =>
      checkEarlier group
      return .again group
  else
    if 0x100 ≤ valueOf 8 digits then
      problem ("octal escape value " ++ text ++ " outside of range 0-0o377") text.length
    return .member (.code (valueOf 8 digits))

/-- An escape outside a set. -/
def readEscape (code : Nat) : PatternReader Escaped := do
  if !code.isValidChar then return .member (.code code)
  let c := Char.ofNat code
  match kindOf? c, edgeOf? c, controlCode? c with
  | some kind, _, _ => return .member kind
  | none, some edge, _ => return .edge edge
  | none, none, some code => return .member (.code code)
  | none, none, none =>
    if c = '0' then
      return .member (.code (valueOf 8 (← takeWhile isOctalDigit 2)))
    else if c.isDigit then readDigits c
    else return .member (← readPlainEscape c)

/-! ### Sets -/

/-- A member of a set, by its symbol. -/
def readMember : List Nat → PatternReader Member
  | [0x5C, code] => readMemberEscape code
  | symbol => return .code (symbol.headD 0)

/-- The members of a set, up to the bracket that closes it. It starts at a position. The first
    argument bounds the number of members. -/
def readMembers (start : Nat) : (fuel : Nat) → List Member → PatternReader (List Member)
  | 0, members => return members
  | fuel + 1, members => do
    let unterminated : PatternReader (List Member) := do
      problem "unterminated character set" ((← position) - start)
    match ← take? with
    | none => unterminated
    | some symbol =>
      -- A bracket that comes first is a member of the set.
      if symbol = [']'.toNat] && !members.isEmpty then return members
      let member ← readMember symbol
      if !(← accept '-') then return ← readMembers start fuel (members ++ [member])
      match ← take? with
      | none => unterminated
      | some other =>
        -- A hyphen before the closing bracket stands for itself.
        if other = [']'.toNat] then return members ++ [member, .code '-'.toNat]
        let text := symbol ++ ['-'.toNat] ++ other
        let bad : PatternReader (List Member) :=
          problem ("bad character range " ++ Text.ofCodes text) text.length
        match member, ← readMember other with
        | .code first, .code last =>
          if last < first then bad
          else readMembers start fuel (members ++ [.range first last])
        | _, _ => bad

/-- A set, behind the bracket that opens it. -/
def readSet (flags : PatternFlags) : PatternReader Pattern := do
  let start := (← position) - 1
  let isOther ← accept '^'
  return .one isOther (← readMembers start ((← get).symbols.length + 1) []) flags

/-! ### Repetitions -/

/-- Repetitions are fewer than this. -/
def timesLimit : Nat := 0xFFFFFFFF

/-- How often something is repeated, behind a sign of repetition; nothing if the sign is a brace
    that stands for itself. -/
def readTimes (sign : Char) : PatternReader (Option (Nat × Option Nat)) := do
  match sign with
  | '?' => return some (0, some 1)
  | '*' => return some (0, none)
  | '+' => return some (1, none)
  | _ =>
    if (← next?) = some ['\x7d'.toNat] then return none
    let reading ← get
    let start ← position
    let count := reading.symbols.length
    let least ← takeWhile Char.isDigit count
    let hasComma ← accept ','
    let most ← if hasComma then takeWhile Char.isDigit count else pure least
    if !(← accept '\x7d') then
      -- Nothing but a complete number of times is taken.
      set reading
      return none
    let least := valueOf 10 least
    let most := if most.isEmpty then none else some (valueOf 10 most)
    if timesLimit ≤ least || most.any (timesLimit ≤ ·) then throw .tooManyTimes
    if most.any (· < least) then
      problem "min repeat greater than max repeat" ((← position) - start)
    return some (least, most)

/-- The lengths of what is repeated. -/
def Width.times (width : Width) (least : Nat) (most : Option Nat) : Width :=
  (width.1 * least, match most with
    | some most => width.2 * most
    | none => if width.2 = 0 then 0 else widthLimit)

/-- The manner of a repetition, by the sign behind its own one. -/
def readManner : PatternReader Manner := do
  match ← next? with
  | some [0x3F] =>
    let _ ← take?
    return .lazy
  | some [0x2B] =>
    let _ ← take?
    return .possessive
  | _ => return .greedy

/-- A repetition of the last piece, whose sign has a length. -/
def readRepetition (pieces : List Piece) (sign : Char) : PatternReader (List Piece) := do
  let start ← position
  match ← readTimes sign with
  | none => return pieces ++ [⟨.one false [.code sign.toNat] .none, (1, 1)⟩]
  | some (least, most) =>
    let length := (← position) - start + 1
    match pieces.getLast? with
    | none => problem "nothing to repeat" length
    | some piece =>
      if piece.pattern.isEdge then problem "nothing to repeat" length
      if piece.pattern.isRepeated then problem "multiple repeat" length
      let manner ← readManner
      return pieces.dropLast
        ++ [⟨.repeated least most manner [piece.pattern], piece.width.times least most⟩]

/-! ### Flags -/

/-- The flags with one more, by its letter. -/
def PatternFlags.add (flags : PatternFlags) (isOn : Bool) (letter : Char) : PatternFlags :=
  match letter with
  | 'i' => { flags with ignoresCase := isOn }
  | 'm' => { flags with hasLines := isOn }
  | 's' => { flags with pointIsAll := isOn }
  | 'x' => { flags with isSpaced := isOn }
  | 'a' => { flags with isAscii := isOn }
  | 'u' => { flags with isAscii := !isOn }
  | _ => flags

/-- The letters of flags. -/
def flagLetters : List Char := ['i', 'L', 'm', 's', 'x', 'a', 't', 'u']

/-- Letters that stand for a kind of characters, of which only one is allowed. -/
def typeLetters : List Char := ['L', 'a', 'u']

/-- The letter of a flag behind others, or the sign that ends them; `missing` says what should have
    come. -/
def readLetter (missing : String) (ends : List Char) : PatternReader Char := do
  match ← take? with
  | none => problem missing 0
  | some [code] =>
    let c := Char.ofNat code
    if ends.contains c || flagLetters.contains c then return c
    problem
      (if isWordCode code && !isDecimalDigit code && c != '_' then "unknown flag" else missing) 1
  | some symbol => problem missing symbol.length

/-- Flags that are turned on, from a letter on, and the sign behind them. The first argument bounds
    their number. -/
def readOnFlags : (fuel : Nat) → (on : List Char) → Char → PatternReader (List Char × Char)
  | 0, on, c => return (on, c)
  | fuel + 1, on, c => do
    if c = 'L' then problem "bad inline flags: cannot use 'L' flag with a str pattern" 0
    if typeLetters.contains c && on.any fun other => typeLetters.contains other && other != c then
      problem "bad inline flags: flags 'a', 'u' and 'L' are incompatible" 0
    let on := on ++ [c]
    let c ← readLetter "missing -, : or )" [')', '-', ':']
    if flagLetters.contains c then readOnFlags fuel on c else return (on, c)

/-- Flags that are turned off, from a letter on. The first argument bounds their number. -/
def readOffFlags : (fuel : Nat) → (off : List Char) → Char → PatternReader (List Char)
  | 0, off, _ => return off
  | fuel + 1, off, c => do
    if typeLetters.contains c then
      problem "bad inline flags: cannot turn off flags 'a', 'u' and 'L'" 0
    let off := off ++ [c]
    let c ← readLetter "missing :" [':']
    if flagLetters.contains c then readOffFlags fuel off c else return off

/-- The flags for a group, from their first letter or a hyphen on. The group starts at a position.
    Flags for all pieces would have to come before them. -/
def readFlags (start : Nat) (flags : PatternFlags) (c : Char) : PatternReader PatternFlags := do
  let fuel := (← get).symbols.length + 1
  let (on, sign) ← if c = '-' then pure ([], '-') else readOnFlags fuel [] c
  -- Flags without pieces of their own are those for everything.
  if sign = ')' then
    problem "global flags not at the start of the expression" ((← position) - start)
  if on.contains 't' then problem "bad inline flags: cannot turn on global flag" 1
  let off ←
    if sign = '-' then
      let c ← readLetter "missing flag" []
      readOffFlags fuel [] c
    else pure []
  if off.contains 't' then problem "bad inline flags: cannot turn off global flag" 1
  if on.any off.contains then problem "bad inline flags: flag turned on and off" 1
  return off.foldl (·.add false ·) (on.foldl (·.add true ·) flags)

/-! ### Groups -/

/-- What a group is, by what it starts with. -/
inductive GroupKind where
  | numbered (name : Option (List Nat))
  | plain (flags : PatternFlags)
  | fixed
  | look (isBehind isNegated : Bool)
  | depending (group : Nat)
  | again (group : Nat)
  | remark

/-- A name must be one of a group. -/
def checkName (name : List Nat) : PatternReader Unit := do
  if !(Text.areText name && isIdentifier (Text.ofCodes name).toList) then
    problem ("bad character in group name " ++ quoteCodes name) (name.length + 1)

/-- The number of the group with a name. -/
def groupNamed (name : List Nat) : PatternReader Nat := do
  match (← get).names.lookup name with
  | some group => return group
  | none => problem ("unknown group name " ++ quoteCodes name) (name.length + 1)

/-- The number that a text writes in digits of any script, which underscores may part, perhaps
    between spaces and behind a sign. -/
def numberOfCodes? (codes : List Nat) : Option Nat :=
  let isPlain (code : Nat) : Bool := !isSpaceCode code
  let codes := ((codes.dropWhile isSpaceCode).reverse.dropWhile isSpaceCode).reverse
  let codes := (afterStart? ['+'.toNat] codes).getD codes
  let parts := codes.foldr (fun code parts =>
    match code, parts with
    | 0x5F, parts => [] :: parts
    | code, part :: parts => (code :: part) :: parts
    | code, [] => [[code]]) [[]]
  if codes.all isPlain && parts.all (fun part => !part.isEmpty && part.all isDecimalDigit) then
    some (parts.flatten.foldl (fun n code => 10 * n + (digitValue? code).getD 0) 0)
  else none

/-- The group that pieces depend on, by its name or its number. -/
def readCondition : PatternReader Nat := do
  let name ← takeName ')' "group name"
  if Text.areText name && isIdentifier (Text.ofCodes name).toList then
    groupNamed name
  else
    match numberOfCodes? name with
    | none => problem ("bad character in group name " ++ quoteCodes name) (name.length + 1)
    | some 0 => problem "bad group number" (name.length + 1)
    | some group =>
      let start := (← position) - name.length - 1
      -- Whether there is such a group is known at the end, and reported where it was named first.
      modify fun reading => if (reading.mentioned.lookup group).isSome then reading
        else { reading with mentioned := reading.mentioned ++ [(group, start)] }
      return group

/-- Passes over a remark in a group that starts at a position. The first argument bounds its
    length. -/
def skipRemark (start : Nat) : (fuel : Nat) → PatternReader Unit
  | 0 => return
  | fuel + 1 => do
    match ← take? with
    | none => problem "missing ), unterminated comment" ((← position) - start)
    | some [0x29] => return
    | some _ => skipRemark start fuel

/-- What a group is that starts at a position, behind its bracket. -/
def readGroupKind (start : Nat) (flags : PatternFlags) : PatternReader GroupKind := do
  if !(← accept '?') then return .numbered none
  let named (symbol : List Nat) (before : String) : PatternReader GroupKind :=
    problem ("unknown extension " ++ before ++ Text.ofCodes symbol)
      (symbol.length + before.length)
  match ← take? with
  | none => problem "unexpected end of pattern" 0
  | some [code] =>
    match Char.ofNat code with
    | 'P' =>
      match ← take? with
      | none => problem "unexpected end of pattern" 0
      | some [0x3C] =>
        let name ← takeName '>' "group name"
        checkName name
        return .numbered (some name)
      | some [0x3D] =>
        let name ← takeName ')' "group name"
        checkName name
        let group ← groupNamed name
        if (((← get).groups[group]?).bind id).isNone then
          problem "cannot refer to an open group" (name.length + 1)
        checkEarlier group
        return .again group
      | some symbol => named symbol "?P"
    | ':' => return .plain flags
    | '#' =>
      skipRemark start ((← get).symbols.length + 1)
      return .remark
    | '=' => return .look false false
    | '!' => return .look false true
    | '<' =>
      match ← take? with
      | none => problem "unexpected end of pattern" 0
      | some [0x3D] => return .look true false
      | some [0x21] => return .look true true
      | some symbol => named symbol "?<"
    | '(' =>
      let group ← readCondition
      checkEarlier group
      return .depending group
    | '>' => return .fixed
    | c =>
      if c = '-' || flagLetters.contains c then return .plain (← readFlags start flags c)
      else named [code] "?"
  | some symbol => named symbol "?"

/-- Opens a group, perhaps with a name. -/
def openGroup (name : Option (List Nat)) : PatternReader Nat := do
  let reading ← get
  let group := reading.groups.length
  match name with
  | none => pure ()
  | some name =>
    if let some other := reading.names.lookup name then
      problem ("redefinition of group name " ++ quoteCodes name ++ " as group " ++ toString group
        ++ "; was group " ++ toString other) (name.length + 1)
  set { reading with
    groups := reading.groups ++ [none]
    names := reading.names ++ (name.map fun name => (name, group)).toList }
  return group

/-- A group that starts at a position must be closed. -/
def closeGroup (start : Nat) : PatternReader Unit := do
  if !(← accept ')') then
    problem "missing ), unterminated subpattern" ((← position) - start)

/-! ### Pieces -/

/-- Spaces and remarks that are no pieces: is the symbol one, or the start of one? -/
def skipsSpaced (flags : PatternFlags) (symbol : List Nat) : PatternReader Bool := do
  if !flags.isSpaced then return false
  match symbol with
  | [0x23] =>
    modify fun reading =>
      { reading with symbols := (reading.symbols.dropWhile (·.codes != [0x0A])).drop 1 }
    return true
  | [code] => return [0x20, 0x09, 0x0A, 0x0D, 0x0B, 0x0C].contains code
  | _ => return false

mutual

/-- Pieces in several versions between bars. The first argument bounds the number of symbols and
    the depth of groups. -/
def readBranches (flags : PatternFlags) : (fuel : Nat) → PatternReader (List Piece)
  | 0 => return []
  | fuel + 1 => do
    let first ← readPieces flags fuel []
    let others ← readOthers flags fuel
    if others.isEmpty then return first
    let branches := first :: others
    let widths := branches.map widthOf
    let least := (widths.map Prod.fst).foldl Nat.min widthLimit
    let most := (widths.map Prod.snd).foldl Nat.max 0
    return [⟨.either (branches.map fun pieces => pieces.map Piece.pattern), (least, most)⟩]

/-- The versions behind bars. -/
def readOthers (flags : PatternFlags) : (fuel : Nat) → PatternReader (List (List Piece))
  | 0 => return []
  | fuel + 1 => do
    if ← accept '|' then
      let pieces ← readPieces flags fuel []
      return pieces :: (← readOthers flags fuel)
    return []

/-- Pieces up to a bar, a closing bracket, or the end. -/
def readPieces (flags : PatternFlags) : (fuel : Nat) → List Piece → PatternReader (List Piece)
  | 0, pieces => return pieces
  | fuel + 1, pieces => do
    match ← next? with
    | none | some [0x7C] | some [0x29] => return pieces
    | some symbol =>
      let _ ← take?
      if ← skipsSpaced flags symbol then readPieces flags fuel pieces
      else
        let pieces ← readPiece flags fuel pieces symbol
        readPieces flags fuel pieces

/-- The pieces with one more, whose first symbol is given. -/
def readPiece (flags : PatternFlags) : (fuel : Nat) → List Piece → (symbol : List Nat) →
    PatternReader (List Piece)
  | 0, pieces, _ => return pieces
  | fuel + 1, pieces, symbol => do
    let one (isOther : Bool) (members : List Member) : List Piece :=
      pieces ++ [⟨.one isOther members flags, (1, 1)⟩]
    match symbol with
    | [0x5C, code] =>
      match ← readEscape code with
      | .member member => return one false [member]
      | .edge edge => return pieces ++ [⟨.edge edge flags, (0, 0)⟩]
      | .again group =>
        let width := (((← get).groups[group]?).bind id).getD (0, 0)
        return pieces ++ [⟨.again group flags, width⟩]
    | [code] =>
      match Char.ofNat code with
      | '[' => return pieces ++ [⟨← readSet flags, (1, 1)⟩]
      | '.' => return one true (if flags.pointIsAll then [] else [.code 0x0A])
      | '^' => return pieces ++ [⟨.edge .start flags, (0, 0)⟩]
      | '$' => return pieces ++ [⟨.edge .stop flags, (0, 0)⟩]
      | '(' => return pieces ++ (← readGroup flags fuel).toList
      | c =>
        if ['?', '*', '+', '\x7b'].contains c then readRepetition pieces c
        else return one false [.code code]
    | _ => return pieces

/-- A group, behind the bracket that opens it; nothing if it is a remark. -/
def readGroup (flags : PatternFlags) : (fuel : Nat) → PatternReader (Option Piece)
  | 0 => return none
  | fuel + 1 => do
    let start := (← position) - 1
    match ← readGroupKind start flags with
    | .remark => return none
    | .again group =>
      let width := (((← get).groups[group]?).bind id).getD (0, 0)
      return some ⟨.again group flags, width⟩
    | .numbered name =>
      let group ← openGroup name
      let body ← readBranches flags fuel
      closeGroup start
      modify fun reading =>
        { reading with groups := reading.groups.set group (some (widthOf body)) }
      return some ⟨.group (some group) (body.map Piece.pattern), widthOf body⟩
    | .plain flags =>
      let body ← readBranches flags fuel
      closeGroup start
      return some ⟨.group none (body.map Piece.pattern), widthOf body⟩
    | .fixed =>
      let body ← readBranches flags fuel
      closeGroup start
      return some ⟨.fixed (body.map Piece.pattern), widthOf body⟩
    | .look isBehind isNegated =>
      let earlier := (← get).earlierGroups
      if isBehind && earlier.isNone then
        modify fun reading => { reading with earlierGroups := some reading.groups.length }
      let body ← readBranches flags fuel
      if isBehind then modify fun reading => { reading with earlierGroups := earlier }
      closeGroup start
      let (least, most) := widthOf body
      if isBehind && least != most then
        modify fun reading => { reading with variesBehind := true }
      return some
        ⟨.look (if isBehind then some least else none) isNegated (body.map Piece.pattern), (0, 0)⟩
    | .depending group =>
      let yes ← readPieces flags fuel []
      let no ←
        if ← accept '|' then
          let no ← readPieces flags fuel []
          if (← next?) = some ['|'.toNat] then
            problem "conditional backref with more than two branches" 0
          pure (some no)
        else pure none
      closeGroup start
      let (least, most) := widthOf yes
      let width := match no.map widthOf with
        | some other => (Nat.min least other.1, Nat.max most other.2)
        | none => (0, most)
      return some ⟨.depending group (yes.map Piece.pattern) ((no.getD []).map Piece.pattern), width⟩

end

/-- All pieces of a text. Groups that are mentioned must be there, and what must have come before a
    place must have one length. -/
def readPattern (fuel : Nat) : PatternReader (List Pattern) := do
  let pieces ← readBranches .none fuel
  if (← next?).isSome then problem "unbalanced parenthesis" 0
  let reading ← get
  match reading.mentioned.find? fun mention => reading.groups.length ≤ mention.1 with
  | some (group, position) =>
    throw (.flawed ("invalid group reference " ++ toString group) (some position))
  | none => pure ()
  if reading.variesBehind then throw (.flawed "look-behind requires fixed-width pattern" none)
  return pieces.map Piece.pattern

/-- The pattern with a text, which starts with no flags for all of it. -/
def Pattern.ofCodes (codes : List Nat) : Except PatternProblem (List Pattern) :=
  let reading : PatternReading :=
    ⟨symbolsOf 0 codes, codes.length, [none], [], none, [], false⟩
  Prod.fst <$> (readPattern (4 * codes.length + 8)).run reading

end RecordSearch.Text
