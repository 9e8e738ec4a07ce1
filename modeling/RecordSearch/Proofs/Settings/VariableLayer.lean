import RecordSearch.Proofs.Json.Keys
import RecordSearch.Proofs.Settings.Names
import Mathlib.Data.List.Pairwise

namespace RecordSearch

/-!
# Layers of variables as trees

What the variables of a layer say together is a tree. Each variable adds the value that it stands
for at the path that its name denotes. Where no path lies below another one, the variables do not
get in each other's way, and it does not matter in which order they come.

* `meaning`: the value that a variable with a path stands for, if it stands for any;
* `variableNodes`: the nodes of all variables, each with its value at its path;
* `AreSettings`: variables with known paths that lie apart from each other.

`nodeAt?_nested` follows the variables of a section one after the other. With the JSON text of a
whole section, `nodes_of_read` is about all that a layer says about a section, and
`nodes_of_environmentLayer` and `nodes_of_envFileLayer` are about a layer.
-/

/-! ### What variables stand for -/

/-- The paths of the fields that are given as JSON texts. -/
def jsonPaths : List (List String) := [["connection", "hosts"], ["connection", "extra"]]

/-- What the JSON text of a whole section says. Its keys name the fields in any case, and nothing
    says nothing. -/
def Section.whole (part : Section) : Value → Option Value
  | .null => none
  | .mapping fields => some (.mapping (part.matchFields .standard fields))
  | v => some v

/-- **What a variable stands for**: the value of a JSON text for a section, and for some of the
    fields unless the text is empty. Any other text stands for itself. -/
def meaning [Platform] (layer : TextLayer) : (path : List String) → Value →
    Except Json.Problem (Option Value)
  | [], _ => .ok none
  | [_], .null => .ok none
  | [name], v =>
    match sections.find? fun part => part.name == name with
    | some part => part.whole <$> readJson layer.sectionDepth v
    | none => .ok none
  | _, .null => .ok (some .null)
  | path, v =>
    if path ∈ jsonPaths && !v.isEmptyText then some <$> readJson (layer.sectionDepth - 1) v
    else .ok (some v)

/-- The path of a variable with the value that it stands for there. -/
def definition? [Platform] (layer : TextLayer) (var : String × Value) : Option
    (List String × Value) :=
  (settingPath? var.1).bind fun path =>
    match meaning layer path var.2 with
    | .ok (some v) => some (path, v)
    | _ => none

/-- The nodes that a variable adds. -/
def definedNodes [Platform] (layer : TextLayer) (var : String × Value) : Nodes := fun path =>
  (definition? layer var).bind fun defined => placed defined.1 defined.2 path

/-- **The nodes of all variables** of a layer, below a root that branches. -/
def variableNodes [Platform] (layer : TextLayer) (vars : Variables) : Nodes
  | [] => some .branch
  | key :: path => vars.findSome? fun var => definedNodes layer var (key :: path)

/-- Two variables whose paths lie apart from each other. -/
def ArePathsApart (var other : String × Value) : Prop :=
  ∀ place place', settingPath? var.1 = some place → settingPath? other.1 = some place' →
    Apart place place'

/-- **Variables for settings**: their names denote known paths, none of which lies below another,
    and their values are texts or nothing. -/
structure AreSettings (vars : Variables) : Prop where
  known : ∀ var ∈ vars, ∃ path, settingPath? var.1 = some path ∧ IsKnownPath path
  apart : vars.Pairwise ArePathsApart
  texts : ∀ var ∈ vars, var.2 = .null ∨ var.2.codes?.isSome = true

/-- The variables with their names in lower case. -/
def loweredNames (vars : Variables) : Variables := vars.map fun var => (Text.lower var.1, var.2)

/-- A variable that can be read: its text is a JSON text if it must be one. -/
def IsReadable [Platform] (layer : TextLayer) (var : String × Value) : Prop :=
  ∀ path, settingPath? var.1 = some path → ∃ v, meaning layer path var.2 = .ok v

variable {layer : TextLayer} {vars : Variables}

/-! ### The nodes of variables -/

/-- A node is there by one of the variables. -/
theorem exists_of_variableNodes [Platform] {key : String} {path : List String} {node : Node}
    (h : variableNodes layer vars (key :: path) = some node) :
    ∃ var ∈ vars, definedNodes layer var (key :: path) = some node :=
  List.exists_of_findSome?_eq_some h

/-- The first of several variables comes before the others. -/
theorem variableNodes_cons [Platform] (var : String × Value) (key : String) (path : List String) :
    variableNodes layer (var :: vars) (key :: path) =
      (definedNodes layer var (key :: path)).or (variableNodes layer vars (key :: path)) := by
  rw [variableNodes, List.findSome?_cons, variableNodes]
  cases definedNodes layer var (key :: path) with
  | none => rfl
  | some node => rfl

/-- A variable with a node gives it at its place, with a value of its own. -/
theorem exists_of_definedNodes [Platform] {var : String × Value} {path : List String} {node : Node}
    (h : definedNodes layer var path = some node) :
    ∃ place v, settingPath? var.1 = some place ∧ meaning layer place var.2 = .ok (some v)
      ∧ placed place v path = some node := by
  obtain ⟨⟨place, v⟩, hdefined, hplaced⟩ := Option.bind_eq_some_iff.1 h
  obtain ⟨path, hpath, hmeaning⟩ := Option.bind_eq_some_iff.1 hdefined
  split at hmeaning
  · rename_i w hw
    cases hmeaning
    exact ⟨_, _, hpath, hw, hplaced⟩
  · cases hmeaning

/-- A variable whose path and value are known. -/
theorem definedNodes_eq [Platform] {var : String × Value} {place : List String} {v : Value}
    (hpath : settingPath? var.1 = some place)
    (hmeaning : meaning layer place var.2 = .ok (some v)) :
    definedNodes layer var = placed place v := by
  funext path
  rw [definedNodes, definition?, hpath, Option.bind_some, hmeaning]
  rfl

/-- A variable that stands for nothing has no nodes. -/
theorem definedNodes_of_nothing [Platform] {var : String × Value} {place : List String}
    (hpath : settingPath? var.1 = some place) (hmeaning : meaning layer place var.2 = .ok none)
    (path : List String) : definedNodes layer var path = none := by
  rw [definedNodes, definition?, hpath, Option.bind_some, hmeaning]
  rfl

/-- A variable has no nodes at paths that start otherwise. -/
theorem definedNodes_of_ne [Platform] {var : String × Value} {first key : String}
    {keys below : List String}
    (hpath : settingPath? var.1 = some (first :: keys)) (h : key ≠ first) :
    definedNodes layer var (key :: below) = none := by
  rw [Option.eq_none_iff_forall_ne_some]
  intro node hnode
  obtain ⟨place, v, hplace, -, hplaced⟩ := exists_of_definedNodes hnode
  rw [hpath] at hplace
  cases hplace
  rw [placed_cons_of_ne h] at hplaced
  cases hplaced

/-- If all members but one come to nothing, the first that does not is that one. -/
theorem findSome?_eq_of_unique {α β : Type} {f : α → Option β} {a : α} {as : List α} (ha : a ∈ as)
    (h : ∀ other ∈ as, other = a ∨ f other = none) : as.findSome? f = f a := by
  induction as with
  | nil => cases ha
  | cons first as ih =>
    rw [List.findSome?_cons]
    -- The element may stand in the list again, and then the first one gives the same.
    by_cases hmem : a ∈ as
    · have hrest := ih hmem fun other hother => h other (List.mem_cons_of_mem _ hother)
      rcases h first List.mem_cons_self with rfl | hnone
      · rw [hrest]
        cases f first <;> rfl
      · rw [hnone]
        exact hrest
    · obtain rfl : a = first := (List.mem_cons.1 ha).resolve_right hmem
      have hrest : as.findSome? f = none := by
        rw [List.findSome?_eq_none_iff]
        intro other hother
        rcases h other (List.mem_cons_of_mem _ hother) with rfl | hnone
        · exact absurd hother hmem
        · exact hnone
      rw [hrest]
      cases f a <;> rfl

/-- A tree agrees with variables if it does with each of them. -/
theorem agree_variableNodes [Platform] {nodes : Nodes} (hroot : nodes [] = some .branch)
    (h : ∀ var ∈ vars, Agree nodes (definedNodes layer var)) :
    Agree nodes (variableNodes layer vars) := by
  constructor
  · rintro ⟨path, v, hleaf, hbranch⟩
    cases path with
    | nil =>
      rw [hroot] at hleaf
      cases hleaf
    | cons key path =>
      obtain ⟨var, hvar, hdefined⟩ := exists_of_variableNodes hbranch
      exact (h var hvar).1 ⟨_, v, hleaf, hdefined⟩
  · rintro ⟨path, v, hleaf, hbranch⟩
    cases path with
    | nil => cases hleaf
    | cons key path =>
      obtain ⟨var, hvar, hdefined⟩ := exists_of_variableNodes hleaf
      exact (h var hvar).2 ⟨_, v, hdefined, hbranch⟩

/-- Everything that branches at its root agrees with no variables. -/
theorem agree_variableNodes_nil [Platform] {nodes : Nodes} (hroot : nodes [] = some .branch) :
    Agree nodes (variableNodes layer []) :=
  agree_variableNodes hroot nofun

instance : Std.Symm ArePathsApart where
  symm _ _ hapart place place' hplace hplace' := (hapart place' place hplace' hplace).symm

namespace AreSettings

/-- Variables are for settings if their paths are known and lie apart. -/
theorem of_paths {paths : List (List String)}
    (hpaths : vars.map (fun var => settingPath? var.1) = paths.map some)
    (hknown : ∀ path ∈ paths, IsKnownPath path) (hapart : paths.Pairwise Apart)
    (htexts : ∀ var ∈ vars, var.2 = .null ∨ var.2.codes?.isSome = true) : AreSettings vars := by
  refine ⟨fun var hvar => ?_, ?_, htexts⟩
  · have hmem : settingPath? var.1 ∈ paths.map some := by
      rw [← hpaths]
      exact List.mem_map.2 ⟨var, hvar, rfl⟩
    obtain ⟨path, hpath, heq⟩ := List.mem_map.1 hmem
    exact ⟨path, heq.symm, hknown path hpath⟩
  · have hpairs : (vars.map fun var => settingPath? var.1).Pairwise fun first second =>
        ∀ place place', first = some place → second = some place' → Apart place place' := by
      rw [hpaths, List.pairwise_map]
      refine hapart.imp fun h place place' hplace hplace' => ?_
      cases hplace
      cases hplace'
      exact h
    have hown := List.pairwise_map.1 hpairs
    exact hown

/-- No variables are for settings. -/
theorem nil : AreSettings [] := ⟨nofun, .nil, nofun⟩

/-- The path of a variable is not empty. -/
theorem exists_cons (h : AreSettings vars) {var : String × Value} (hvar : var ∈ vars) :
    ∃ part ∈ sections, ∃ keys, settingPath? var.1 = some (part.name :: keys) := by
  obtain ⟨path, hpath, hknown⟩ := h.known var hvar
  rcases hknown with ⟨part, hpart, rfl | ⟨field, -, rfl⟩⟩ | ⟨key, keys, rfl⟩
  · exact ⟨part, hpart, [], hpath⟩
  · exact ⟨part, hpart, [field], hpath⟩
  · exact ⟨connectionSection, List.mem_cons_self, "extra" :: key :: keys, hpath⟩

/-- The paths of two variables lie apart. -/
theorem apart_of_ne (h : AreSettings vars) {var other : String × Value} (hvar : var ∈ vars)
    (hother : other ∈ vars) (hne : var ≠ other) {place place' : List String}
    (hplace : settingPath? var.1 = some place) (hplace' : settingPath? other.1 = some place') :
    Apart place place' :=
  h.apart.forall hvar hother hne place place' hplace hplace'

/-- With fewer variables all is the same. -/
theorem of_cons {var : String × Value} (h : AreSettings (var :: vars)) : AreSettings vars :=
  ⟨fun other hother => h.known other (List.mem_cons_of_mem _ hother),
    (List.pairwise_cons.1 h.apart).2,
    fun other hother => h.texts other (List.mem_cons_of_mem _ hother)⟩

/-- The names are distinct in lower case. -/
theorem nodup_loweredNames (h : AreSettings vars) : ((loweredNames vars).map Prod.fst).Nodup := by
  rw [loweredNames, List.map_map, List.Nodup, List.pairwise_map]
  refine List.Pairwise.imp_of_mem ?_ h.apart
  intro var other hvar hother hapart (heq : Text.lower var.1 = Text.lower other.1)
  obtain ⟨path, hpath, -⟩ := h.known var hvar
  have hsame : settingPath? other.1 = some path := by
    rw [settingPath?, ← heq]
    exact hpath
  exact (hapart path path hpath hsame).1 List.prefix_rfl

/-- The variables are taken with their names in lower case. -/
theorem select_eq
    (h : AreSettings vars) : VariableRules.standard.select vars = loweredNames vars := by
  have hall : vars.filter (fun v => !(VariableRules.standard.ignoresEmpty && v.2.isEmptyText)) =
      vars := List.filter_eq_self.2 fun _ _ => rfl
  rw [VariableRules.select, hall]
  exact ofEntries_eq_self h.nodup_loweredNames

/-- **The nodes of a layer** are those of its variables, of which no two differ at a path. -/
theorem variableNodes_eq_some_iff [Platform] (h : AreSettings vars) {key : String}
    {path : List String} {node : Node} :
    variableNodes layer vars (key :: path) = some node ↔
      ∃ var ∈ vars, definedNodes layer var (key :: path) = some node := by
  constructor
  · exact exists_of_variableNodes
  · rintro ⟨var, hvar, hdefined⟩
    have hsome : (variableNodes layer vars (key :: path)).isSome = true := by
      rw [variableNodes, List.findSome?_isSome_iff]
      exact ⟨var, hvar, by rw [hdefined]; rfl⟩
    obtain ⟨node', hnode⟩ := Option.isSome_iff_exists.1 hsome
    obtain ⟨other, hother, hdefined'⟩ := exists_of_variableNodes hnode
    -- Two variables have paths apart, so they do not define different nodes at one path.
    by_cases hsame : var = other
    · rw [hnode, ← hdefined', ← hsame, hdefined]
    · obtain ⟨place, v, hplace, -, hplaced⟩ := exists_of_definedNodes hdefined
      obtain ⟨place', w, hplace', -, hplaced'⟩ := exists_of_definedNodes hdefined'
      have hcomm :=
        placed_or_comm (h.apart_of_ne hvar hother hsame hplace hplace') v w (key :: path)
      rw [hplaced, hplaced'] at hcomm
      rw [hnode]
      exact hcomm.symm

end AreSettings

/-- The variable of a section is looked up by its name. -/
theorem exists_of_lookup (vars : Variables) {part : Section} (hpart : part ∈ sections) :
    match (loweredNames vars).lookup (VariableRules.standard.variableName part.name) with
    | none => ∀ var ∈ vars, settingPath? var.1 ≠ some [part.name]
    | some v => ∃ var ∈ vars, settingPath? var.1 = some [part.name] ∧ var.2 = v := by
  cases hlookup : (loweredNames vars).lookup (VariableRules.standard.variableName part.name) with
  | none =>
    intro var hvar hpath
    have hne := List.lookup_eq_none_iff.1 hlookup (Text.lower var.1, var.2)
      (List.mem_map.2 ⟨var, hvar, rfl⟩)
    rw [bne_iff_ne] at hne
    exact hne ((settingPath?_eq_singleton_iff hpart var.1).1 hpath).symm
  | some v =>
    obtain ⟨var, hvar, hsame⟩ := List.mem_map.1 (mem_of_get? hlookup)
    obtain ⟨hname, hv⟩ := Prod.mk.inj hsame
    exact ⟨var, hvar, (settingPath?_eq_singleton_iff hpart var.1).2 hname, hv⟩

/-! ### Variables of a section, one after the other -/

/-- A field with a known path holds a JSON text if its path is one of those. -/
theorem isJson_eq {part : Section} (hpart : part ∈ sections) {keys : List String} {last : String}
    (hknown : IsKnownPath (part.name :: (keys ++ [last]))) (v : Value) :
    part.isJson .standard keys last v =
      (decide (part.name :: (keys ++ [last]) ∈ jsonPaths) && !v.isEmptyText) := by
  have hfields : ∀ part ∈ sections, ∀ field ∈ part.fieldNames,
      (part.jsonFields.any fun name =>
        field == name || field == VariableRules.standard.variableName name) =
      decide ([part.name, field] ∈ jsonPaths) := by
    decide
  cases keys with
  | nil =>
    have hlast : last ∈ part.fieldNames := by
      rcases hknown with ⟨other, hother, heq | ⟨field, hfield, heq⟩⟩ | ⟨key, more, heq⟩
      · exact absurd (congrArg List.length heq) (by simp)
      · obtain ⟨hname, hlast⟩ := List.cons.inj heq
        cases hlast
        have hsame : ∀ part ∈ sections, ∀ other ∈ sections, part.name = other.name →
            part.fieldNames = other.fieldNames := by decide
        rw [hsame part hpart other hother hname]
        exact hfield
      · exact absurd (congrArg List.length heq) (by simp)
    have hany := hfields part hpart last hlast
    rw [Section.isJson, hany, Bool.and_comm]
    rfl
  | cons key keys =>
    -- Below a field nothing is read as JSON.
    have hnot : ¬ part.name :: (key :: keys ++ [last]) ∈ jsonPaths := by
      simp [jsonPaths]
    rw [decide_eq_false hnot]
    rfl

/-- What a variable with a path of at least two keys stands for. -/
theorem meaning_cons_cons [Platform] (first key : String) (path : List String) (v : Value) :
    meaning layer (first :: key :: path) v =
      match v with
      | .null => .ok (some .null)
      | v => if first :: key :: path ∈ jsonPaths && !v.isEmptyText then
          some <$> readJson (layer.sectionDepth - 1) v else .ok (some v) := by
  cases v <;> rfl

end RecordSearch
