import RecordSearch.Text.Pattern

namespace RecordSearch.Text

/-!
# Texts that match a pattern

A pattern is tried from the start of a text on. Where there is a choice, one way is tried first,
and the others if the rest of the pattern does not go on from there.

* `Pattern.matched?`: the parts of a text that match the groups of a pattern.
-/

/-- A place in a text that is matched: what is before it, last character first, what is behind it,
    and the parts of groups so far. -/
structure Matching where
  before : List Nat
  after : List Nat
  groups : List (Nat × List Nat)

namespace Matching

/-- The place behind the next character. -/
def step : Matching → Matching
  | ⟨before, code :: after, groups⟩ => ⟨code :: before, after, groups⟩
  | m => m

/-- The place so many characters earlier. -/
def back : (count : Nat) → Matching → Matching
  | count + 1, ⟨code :: before, after, groups⟩ => back count ⟨before, code :: after, groups⟩
  | _, m => m

/-- The part from an earlier place on. -/
def partFrom (start m : Matching) : List Nat :=
  (m.before.take (m.before.length - start.before.length)).reverse

/-- The part of a group. -/
def group? (m : Matching) (number : Nat) : Option (List Nat) := m.groups.lookup number

/-- The place behind a part that equals a given one. -/
def skip? (flags : PatternFlags) : (part : List Nat) → Matching → Option Matching
  | [], m => some m
  | code :: part, m =>
    if m.after.head?.any fun next => (Member.code code).holds flags next then
      skip? flags part m.step
    else none

end Matching

mutual

/-- The end of the first way to match pieces from a place on for which there is a way to go on. The
    first argument bounds the number of steps one after the other. -/
def search : (fuel : Nat) → List Pattern → Matching → (Matching → Option Matching) →
    Option Matching
  | 0, _, _, _ => none
  | _ + 1, [], m, onward => onward m
  | fuel + 1, piece :: pieces, m, onward =>
    let rest (m : Matching) := search fuel pieces m onward
    match piece with
    | .one isOther members flags =>
      if m.after.head?.any (holdsOne isOther members flags) then rest m.step else none
    | .edge edge flags => if edge.holds flags m.before m.after then rest m else none
    | .again group flags => ((m.group? group).bind (m.skip? flags)).bind rest
    | .either branches => branches.findSome? fun body => search fuel body m rest
    -- What such a repetition has matched is not given back to let the rest match.
    | .repeated least most .possessive body =>
      (searchAgain fuel least most .greedy body none m some).bind rest
    | .repeated least most manner body => searchAgain fuel least most manner body none m rest
    | .group none body => search fuel body m rest
    | .group (some number) body =>
      search fuel body m fun stop =>
        -- The part of the last time comes first, and is the one that counts.
        rest { stop with groups := (number, m.partFrom stop) :: stop.groups }
    | .fixed body => (search fuel body m some).bind rest
    | .look length isNegated body =>
      -- A look behind goes back by the length of what it looks for.
      let start := (length.elim m fun length => m.back length)
      let found :=
        if (length.getD 0) ≤ m.before.length then search fuel body start some else none
      match isNegated, found with
      | false, some stop => rest { m with groups := stop.groups }
      | true, none => rest m
      | _, _ => none
    | .depending group yes no => search fuel (if (m.group? group).isSome then yes else no) m rest

/-- The same for a repetition, whose last time started at the given place. Where nothing was matched
    a time, it is not tried again. -/
def searchAgain : (fuel : Nat) → (least : Nat) → (most : Option Nat) → Manner → List Pattern →
    (last : Option Nat) → Matching → (Matching → Option Matching) → Option Matching
  | 0, _, _, _, _, _, _, _ => none
  | fuel + 1, least + 1, most, manner, body, last, m, onward =>
    search fuel body m fun stop =>
      -- After a time that matches nothing all further ones would do the same.
      let least := if stop.before.length = m.before.length then 0 else least
      searchAgain fuel least (most.map (· - 1)) manner body last stop onward
  | fuel + 1, 0, most, manner, body, last, m, onward =>
    let place := m.before.length
    let more (_ : Unit) : Option Matching :=
      if most = some 0 || last = some place then none
      else search fuel body m fun stop =>
        searchAgain fuel 0 (most.map (· - 1)) manner body (some place) stop onward
    match manner with
    | .lazy => (onward m).orElse more
    | _ => (more ()).orElse fun _ => onward m

end

/-- The parts of a text that match the groups of a pattern, if the text starts like the pattern. The
    first argument bounds the number of pieces. -/
def Pattern.matched? (size : Nat) (pattern : List Pattern) (text : List Nat) : Option Matching :=
  search ((size + 3) * (text.length + 3)) pattern ⟨[], text, []⟩ some

end RecordSearch.Text
