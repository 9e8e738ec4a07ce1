import RecordSearch.Text.Pattern.Matching
import RecordSearch.Text.Pattern.Reading

namespace RecordSearch

/-!
# The sign of flags

Where the case of letters does not count, the flags among the words of a command are found by a
pattern: the sign once or twice, and then anything but spaces and equality signs. The sign is part
of the pattern as it is, with only a backslash in front, so that it can have another meaning, or
none.

* `Sign.parse`: the pattern for a sign, or why there is none;
* `Sign.cut?`: a word taken apart behind its flag.
-/

/-- Why there is no pattern for a sign. -/
structure SignProblem where
  sign : List Nat
  problem : Text.PatternProblem
deriving DecidableEq, Repr

/-- A sign in a pattern. -/
structure Sign where
  length : Nat
  pattern : List Text.Pattern

/-- Where a word is taken apart: what is compared with flags, and what comes behind it. Either of
    them can be missing. -/
structure SignCut where
  start : Option (List Nat)
  rest : Option (List Nat)

namespace Sign

/-- The text of the pattern for a sign. -/
def patternText (sign : List Nat) : List Nat :=
  Text.codes "^(\\" ++ sign ++ Text.codes "\x7b1,2\x7d[^\\s=]+)(.*)"

/-- The pattern for a sign. -/
def parse (sign : List Nat) : Except SignProblem Sign :=
  match Text.Pattern.ofCodes (patternText sign) with
  | .ok pattern => .ok ⟨(patternText sign).length, pattern⟩
  | .error problem => .error ⟨sign, problem⟩

/-- A word taken apart behind its flag, if it has one: by the first two groups of the pattern. -/
def cut? (sign : Sign) (word : List Nat) : Option SignCut :=
  (Text.Pattern.matched? sign.length sign.pattern word).map fun m => ⟨m.group? 1, m.group? 2⟩

end Sign

/-- The text of a problem. -/
def SignProblem.message (problem : SignProblem) : String :=
  problem.problem.message (Sign.patternText problem.sign)

end RecordSearch
