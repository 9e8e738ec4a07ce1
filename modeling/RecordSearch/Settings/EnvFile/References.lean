import RecordSearch.Settings.EnvFile.Lines

namespace RecordSearch

/-!
# References to variables

The text of a variable can refer to others by their names between braces behind a dollar sign, with
a text for the case that there is no such variable behind a colon and a hyphen. References are
replaced from the first variable to the last one.

* `replaceReferences`: a text with its references replaced;
* `resolveReferences`: the variables of a file with all references replaced.
-/

/-- A reference: a name, and the text that counts if there is no such variable. -/
structure Reference where
  name : List Nat
  otherwise : List Nat

/-- The reference behind a dollar sign and a brace, and what comes after it. -/
def readReference (codes : List Nat) : Option (Reference × List Nat) :=
  let brace := '\x7d'.toNat
  let name := codes.takeWhile fun code => code != brace && code != ':'.toNat
  let rest := codes.drop name.length
  match afterChar? '\x7d' rest, Text.afterStart? (Text.codes ":-") rest with
  | some rest, _ => some (⟨name, []⟩, rest)
  | none, some rest =>
    let otherwise := rest.takeWhile (· != brace)
    match rest.drop otherwise.length with
    | _ :: rest => some (⟨name, otherwise⟩, rest)
    | [] => none
  | none, none => none

/-- The text of a reference. A variable without a text stands for an empty one. -/
def Reference.text (ref : Reference) (lookup : List Nat → Option (Option (List Nat))) : List Nat :=
  match lookup ref.name with
  | some text => text.getD []
  | none => ref.otherwise

/-- A text with its references replaced. The first argument bounds its length. -/
def replaceReferences (lookup : List Nat → Option (Option (List Nat))) :
    (fuel : Nat) → List Nat → List Nat
  | 0, codes => codes
  | _, [] => []
  | fuel + 1, code :: codes =>
    match (Text.afterStart? (Text.codes "$\x7b") (code :: codes)).bind readReference with
    | some (ref, rest) => ref.text lookup ++ replaceReferences lookup fuel rest
    | none => code :: replaceReferences lookup fuel codes

/-- Sets a variable: in place if it is there, else at the end. -/
def setVariable : List FileVariable → FileVariable → List FileVariable
  | [], v => [v]
  | w :: vars, v => if w.name = v.name then v :: vars else w :: setVariable vars v

/-- The text of the variable with a name. -/
def textOf? (vars : List FileVariable) (name : List Nat) : Option (Option (List Nat)) :=
  (vars.find? fun v => v.name == name).map FileVariable.text

/-- The variables of a file with their references replaced. A name that comes before counts more
    than the surroundings, and of one name the last text counts. -/
def resolveReferences (surroundings : Variables) (vars : List FileVariable) : List FileVariable :=
  let around : List FileVariable := surroundings.map fun v => ⟨Text.codes v.1, v.2.codes?⟩
  vars.foldl (fun before v =>
    let lookup (name : List Nat) : Option (Option (List Nat)) :=
      (textOf? before name).or (textOf? around name)
    let text := v.text.map fun text => replaceReferences lookup text.length text
    setVariable before ⟨v.name, text⟩) []

end RecordSearch
