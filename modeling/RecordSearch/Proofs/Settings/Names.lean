import RecordSearch.Settings.Layers
import Mathlib.Data.List.Basic

namespace RecordSearch

/-!
# Names of variables

The name of a variable denotes the path of a setting: after `elasticscout_`, in any case, it is the
keys of the path with double underscores between them.

* `keysOf`, `settingPath?`: the keys between the delimiters of a text, and the path of a name;
* `IsKnownPath`: the paths of the sections and of their fields, and all below the extra arguments.

A layer is read section by section, and each section looks for its own variables.
`settingPath?_eq_singleton_iff` and `settingPath?_eq_cons_iff` say that it finds those whose paths
start with its name.
-/

/-! ### Texts between delimiters -/

namespace Text

variable {α : Type} [DecidableEq α]

/-- What is left after a start is what the start was put before. -/
theorem afterStart?_eq_some_iff {start text rest : List α} :
    afterStart? start text = some rest ↔ text = start ++ rest := by
  constructor
  · exact eq_append_of_afterStart?
  · rintro rfl
    exact afterStart?_append start rest

/-- A text that is cut consists of the parts and the delimiter. -/
theorem eq_append_of_cutAt? {delimiter text key rest : List α}
    (h : cutAt? delimiter text = some (key, rest)) : text = key ++ delimiter ++ rest := by
  induction text generalizing key with
  | nil => cases h
  | cons c text ih =>
    rw [cutAt?] at h
    cases hafter : afterStart? delimiter (c :: text) with
    | some after =>
      rw [hafter] at h
      cases h
      exact afterStart?_eq_some_iff.1 hafter
    | none =>
      rw [hafter] at h
      obtain ⟨⟨before, after⟩, hcut, heq⟩ := Option.map_eq_some_iff.1 h
      cases heq
      rw [ih hcut, List.cons_append, List.cons_append]

variable {c : α} {delimiter key : List α}

/-- A text without the first sign of a delimiter is not cut. -/
theorem cutAt?_eq_none (h : c ∉ key) : cutAt? (c :: delimiter) key = none := by
  induction key with
  | nil => rfl
  | cons k key ih =>
    obtain ⟨hne, hrest⟩ := not_or.1 fun hmem => h (List.mem_cons.2 hmem)
    rw [cutAt?, afterStart?, if_neg hne]
    dsimp only
    rw [ih hrest, Option.map_none]

/-- A text is cut at the delimiter after a part without the first sign of it. -/
theorem cutAt?_append (h : c ∉ key) (rest : List α) :
    cutAt? (c :: delimiter) (key ++ (c :: delimiter) ++ rest) = some (key, rest) := by
  induction key with
  | nil =>
    show cutAt? (c :: delimiter) (c :: (delimiter ++ rest)) = _
    have hafter : afterStart? (c :: delimiter) (c :: (delimiter ++ rest)) = some rest :=
      afterStart?_append (c :: delimiter) rest
    rw [cutAt?, hafter]
  | cons k key ih =>
    obtain ⟨hne, hrest⟩ := not_or.1 fun hmem => h (List.mem_cons.2 hmem)
    rw [List.cons_append, List.cons_append, cutAt?, afterStart?, if_neg hne]
    dsimp only
    rw [ih hrest, Option.map_some]

end Text

/-- Any number of delimiters that is large enough may count. -/
theorem splitKeys_eq {delimiter : List Char} (hdelimiter : delimiter ≠ []) {m n : Nat}
    {cs : List Char} (hm : cs.length ≤ m) (hn : cs.length ≤ n) :
    splitKeys delimiter m cs = splitKeys delimiter n cs := by
  have hnil : ∀ n, splitKeys delimiter n [] = ([], String.ofList []) := by
    intro n
    cases n <;> rfl
  induction m generalizing n cs with
  | zero =>
    have hempty : cs = [] := List.eq_nil_of_length_eq_zero (by omega)
    rw [hempty, hnil, hnil]
  | succ m ih =>
    cases n with
    | zero =>
      have hempty : cs = [] := List.eq_nil_of_length_eq_zero (by omega)
      rw [hempty, hnil, hnil]
    | succ n =>
      rw [splitKeys, splitKeys]
      cases hcut : Text.cutAt? delimiter cs with
      | none => rfl
      | some parts =>
        obtain ⟨key, rest⟩ := parts
        have hlength : cs.length = key.length + delimiter.length + rest.length := by
          rw [Text.eq_append_of_cutAt? hcut, List.length_append, List.length_append]
        -- Each cut takes at least one character, so the bound never runs out.
        have hpos : 0 < delimiter.length := List.length_pos_of_ne_nil hdelimiter
        dsimp only
        rw [ih (n := n) (by omega) (by omega)]

/-! ### Paths -/

/-- The keys between the double underscores of a text. -/
def keysOf (cs : List Char) : List String :=
  let (keys, last) := splitKeys "__".toList cs.length cs
  keys ++ [last]

/-- **The path that a name denotes**, if it starts with `elasticscout_` in any case. -/
def settingPath? (name : String) : Option (List String) :=
  (Text.afterStart? "elasticscout_".toList (Text.lower name).toList).map keysOf

/-- **A path that is known**: that of a section or of a field, or any path below the extra
    arguments. -/
def IsKnownPath (path : List String) : Prop :=
  (∃ part ∈ sections, path = [part.name] ∨ ∃ field ∈ part.fieldNames, path = [part.name, field])
    ∨ ∃ key keys, path = "connection" :: "extra" :: key :: keys

instance (path : List String) : Decidable (IsKnownPath path) :=
  let below : Bool := match path with
    | "connection" :: "extra" :: _ :: _ => true
    | _ => false
  decidable_of_iff ((∃ part ∈ sections,
        path = [part.name] ∨ ∃ field ∈ part.fieldNames, path = [part.name, field])
      ∨ below = true) <| by
    refine or_congr_right ⟨fun h => ?_, ?_⟩
    · dsimp only [below] at h
      split at h
      · exact ⟨_, _, rfl⟩
      · cases h
    · rintro ⟨key, keys, rfl⟩
      rfl

/-- The keys of a text that is not cut. -/
theorem keysOf_of_cutAt?_eq_none {cs : List Char} (h : Text.cutAt? "__".toList cs = none) :
    keysOf cs = [String.ofList cs] := by
  cases cs with
  | nil => rfl
  | cons c cs =>
    rw [keysOf, List.length_cons, splitKeys, h]
    rfl

/-- The keys of a text that is cut. -/
theorem keysOf_of_cutAt? {cs key rest : List Char}
    (h : Text.cutAt? "__".toList cs = some (key, rest)) :
    keysOf cs = String.ofList key :: keysOf rest := by
  have hlength : cs.length = key.length + 2 + rest.length := by
    rw [Text.eq_append_of_cutAt? h, List.length_append, List.length_append]
    rfl
  obtain ⟨n, hn⟩ : ∃ n, cs.length = n + 1 := ⟨key.length + 1 + rest.length, by omega⟩
  have hsame : splitKeys "__".toList n rest = splitKeys "__".toList rest.length rest :=
    splitKeys_eq (by decide) (by omega) (by omega)
  rw [keysOf, hn, splitKeys, h]
  dsimp only
  rw [hsame]
  rfl

section

variable {part : Section} (hpart : part ∈ sections)
include hpart

/-- The name of a section has no underscore. -/
theorem underscore_notMem_name : '_' ∉ part.name.toList := by
  revert part
  decide

/-- The variable of a section has its name. -/
theorem variableName_eq :
    VariableRules.standard.variableName part.name = "elasticscout_" ++ part.name := by
  revert part
  decide

/-- **The variable of a section** is the one whose path is the name of the section. -/
theorem settingPath?_eq_singleton_iff (name : String) :
    settingPath? name = some [part.name] ↔
      Text.lower name = VariableRules.standard.variableName part.name := by
  have hname := underscore_notMem_name hpart
  rw [variableName_eq hpart, settingPath?, Option.map_eq_some_iff]
  constructor
  · rintro ⟨rest, hrest, hkeys⟩
    cases hcut : Text.cutAt? "__".toList rest with
    | none =>
      rw [keysOf_of_cutAt?_eq_none hcut] at hkeys
      have hsame : rest = part.name.toList := by
        rw [← (List.cons.inj hkeys).1, String.toList_ofList]
      rw [← String.toList_inj, Text.afterStart?_eq_some_iff.1 hrest, String.toList_append, hsame]
    | some parts =>
      -- A text that is cut has at least two keys.
      rw [keysOf_of_cutAt? hcut] at hkeys
      exact absurd (List.cons.inj hkeys).2 (by rw [keysOf]; simp)
  · intro h
    refine ⟨part.name.toList, ?_, ?_⟩
    · rw [h, String.toList_append]
      exact Text.afterStart?_append _ _
    · rw [keysOf_of_cutAt?_eq_none (Text.cutAt?_eq_none hname), String.ofList_toList]

/-- **A variable with a path in a section** is one whose path starts with the name of the
    section. -/
theorem settingPath?_eq_cons_iff (name : String) (keys : List String) (last : String) :
    settingPath? name = some (part.name :: (keys ++ [last])) ↔
      VariableRules.standard.path? part.name (Text.lower name) = some (keys, last) := by
  have hname := underscore_notMem_name hpart
  have hpath : VariableRules.standard.path? part.name (Text.lower name) =
      (Text.afterStart? ("elasticscout_".toList ++ (part.name.toList ++ "__".toList))
        (Text.lower name).toList).map fun rest => splitKeys "__".toList rest.length rest := by
    rw [VariableRules.path?, variableName_eq hpart, String.toList_append, String.toList_append,
      List.append_assoc]
    rfl
  rw [hpath, settingPath?, Option.map_eq_some_iff, Option.map_eq_some_iff]
  constructor
  · rintro ⟨rest, hrest, hkeys⟩
    -- The first key ends at a delimiter, for otherwise it would be the only one.
    cases hcut : Text.cutAt? "__".toList rest with
    | none =>
      rw [keysOf_of_cutAt?_eq_none hcut] at hkeys
      exact absurd (List.cons.inj hkeys).2 (by simp)
    | some parts =>
      obtain ⟨key, more⟩ := parts
      rw [keysOf_of_cutAt? hcut, List.cons.injEq, keysOf] at hkeys
      obtain ⟨hkey, hmore⟩ := hkeys
      obtain ⟨hfirst, hlast⟩ := List.append_inj' hmore rfl
      have hsame : part.name.toList = key := by
        rw [← hkey, String.toList_ofList]
      refine ⟨more, ?_, Prod.ext hfirst (List.cons.inj hlast).1⟩
      rw [Text.afterStart?_eq_some_iff, Text.afterStart?_eq_some_iff.1 hrest,
        Text.eq_append_of_cutAt? hcut, hsame, List.append_assoc, List.append_assoc,
        List.append_assoc]
  · rintro ⟨more, hmore, hsplit⟩
    refine ⟨part.name.toList ++ "__".toList ++ more, ?_, ?_⟩
    · rw [Text.afterStart?_eq_some_iff, Text.afterStart?_eq_some_iff.1 hmore, List.append_assoc]
    -- The name of a section has no underscore, so the first cut is right behind it.
    · have hcut : Text.cutAt? "__".toList (part.name.toList ++ "__".toList ++ more) =
          some (part.name.toList, more) := Text.cutAt?_append hname more
      rw [keysOf_of_cutAt? hcut, String.ofList_toList, keysOf, hsplit]

end

end RecordSearch
