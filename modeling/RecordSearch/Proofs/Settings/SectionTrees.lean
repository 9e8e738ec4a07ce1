import RecordSearch.Proofs.Settings.VariableLayer

namespace RecordSearch

/-!
# The tree of a section

Of the variables of a layer a section reads its own ones. What comes out is a value, and its tree
is the one that the variables say together.

* `nested_cons_eq_ok_iff`: a variable with a path in a section sets its value there;
* `nodeAt?_nested`: the variables with such paths, one after the other;
* `noWhole_or_read`: a section with a variable of its own is read from that alone;
* `nodes_of_read`: all that a layer says about a section;
* `exists_read`: a section whose variables can be read is read.
-/

variable {layer : TextLayer} {vars : Variables} {part : Section}

/-! ### Values with distinct keys -/

/-- A JSON text gives a value with distinct keys. -/
theorem hasDistinctKeys_of_readJson {depth : Nat} {v w : Value} (h : readJson depth v = .ok w) :
    w.HasDistinctKeys := by
  cases v with
  | str text =>
    obtain ⟨u, hread, rfl⟩ := map_eq_ok_iff.1 (h : Json.readTextKeyed depth text = .ok w)
    exact (Json.isKeyed_readChars hread).withTextKeys
  | _ =>
    obtain ⟨u, hread, rfl⟩ := map_eq_ok_iff.1 h
    exact (Json.isKeyed_readCodes hread).withTextKeys

/-- Texts and nothing have no keys. -/
theorem hasDistinctKeys_of_text {v : Value} (h : v = .null ∨ v.codes?.isSome = true) :
    v.HasDistinctKeys := by
  refine Value.hasDistinctKeys_of_leaf ?_
  rcases h with rfl | h
  · rfl
  · cases v with
    | mapping d => cases h
    | _ => rfl

/-- What a variable with a path of at least two keys stands for is a value with distinct keys. -/
theorem exists_of_meaning [Platform] {first key : String} {path : List String} {v : Value}
    {w? : Option Value} (htext : v = .null ∨ v.codes?.isSome = true)
    (h : meaning layer (first :: key :: path) v = .ok w?) :
    ∃ w, w? = some w ∧ w.HasDistinctKeys := by
  have hown := hasDistinctKeys_of_text htext
  -- A value read as JSON has distinct keys, and one that is not read is a text.
  have hjson : ∀ u : Value, u.HasDistinctKeys →
      (if first :: key :: path ∈ jsonPaths && !u.isEmptyText then
        some <$> readJson (layer.sectionDepth - 1) u else .ok (some u)) = .ok w? →
      ∃ w, w? = some w ∧ w.HasDistinctKeys := by
    intro u hu h
    split at h
    · obtain ⟨w, hw, rfl⟩ := map_eq_ok_iff.1 h
      exact ⟨w, rfl, hasDistinctKeys_of_readJson hw⟩
    · cases h
      exact ⟨u, rfl, hu⟩
  rw [meaning_cons_cons] at h
  cases v with
  | null =>
    cases h
    exact ⟨.null, rfl, hown⟩
  | _ => exact hjson _ hown h

/-! ### Variables of a section, one after the other -/

/-- A variable without a path in the section is passed over. -/
theorem nested_cons_of_none [Platform] {name : String}
    (h : VariableRules.standard.path? part.name name = none) (d : Document) (v : Value)
    (rest : Variables) :
    part.nested .standard layer d ((name, v) :: rest) = part.nested .standard layer d rest := by
  rw [Section.nested, h]

/-- **A variable with a path in the section** sets the value that it stands for there. -/
theorem nested_cons_eq_ok_iff [Platform] (hpart : part ∈ sections) {var : String × Value}
    {keys : List String} {last : String}
    (hpath : settingPath? var.1 = some (part.name :: (keys ++ [last])))
    (hknown : IsKnownPath (part.name :: (keys ++ [last]))) (d d' : Document) (rest : Variables) :
    part.nested .standard layer d ((Text.lower var.1, var.2) :: rest) = .ok d' ↔
      ∃ w, meaning layer (part.name :: (keys ++ [last])) var.2 = .ok (some w)
        ∧ part.nested .standard layer (d.insertAt keys last w) rest = .ok d' := by
  obtain ⟨first, more, hsplit⟩ : ∃ first more, keys ++ [last] = first :: more :=
    List.exists_cons_of_ne_nil (by simp)
  have hvalue : ∀ v : Value, part.settingValue .standard layer keys last v =
      if part.name :: first :: more ∈ jsonPaths && !v.isEmptyText then
        readJson (layer.sectionDepth - 1) v else .ok v := by
    intro v
    rw [Section.settingValue, isJson_eq hpart hknown, hsplit]
    rfl
  rw [Section.nested, (settingPath?_eq_cons_iff hpart var.1 keys last).1 hpath, hsplit,
    meaning_cons_cons]
  obtain ⟨name, v⟩ := var
  have hother : ∀ v : Value,
      (do
        let setting ← (part.settingValue .standard layer keys last v).mapError
          (part.unreadable layer)
        part.nested .standard layer (d.insertAt keys last setting) rest) = .ok d' ↔
      ∃ w, (if part.name :: first :: more ∈ jsonPaths && !v.isEmptyText then
          some <$> readJson (layer.sectionDepth - 1) v else .ok (some v)) = .ok (some w)
        ∧ part.nested .standard layer (d.insertAt keys last w) rest = .ok d' := by
    intro v
    rw [bind_eq_ok_iff, hvalue]
    refine exists_congr fun w => and_congr_left fun _ => ?_
    rw [mapError_eq_ok_iff]
    split
    · simp [map_eq_ok_iff]
    · simp
  cases v with
  | null => simp [VariableRules.standard]
  | _ => exact hother _

/-- Setting a value leaves no mapping empty. -/
theorem insertAt_ne_nil (d : Document) (keys : List String) (last : String) (v : Value) :
    d.insertAt keys last v ≠ [] := by
  have hinsert : ∀ key w, Document.insert d key w ≠ [] := by
    intro key w
    cases d with
    | nil => exact List.cons_ne_nil _ _
    | cons entry d =>
      rw [Document.insert]
      split <;> exact List.cons_ne_nil _ _
  cases keys with
  | nil => exact hinsert last v
  | cons key keys =>
    rw [Document.insertAt]
    split
    · exact hinsert key _
    · exact hinsert key _
    · -- A value in the way is an entry.
      rename_i hget
      rintro rfl
      cases hget

/-- No variable gives the whole section. -/
def HasNoWhole (part : Section) (vars : Variables) : Prop :=
  ∀ var ∈ vars, settingPath? var.1 = some [part.name] → var.2 = .null

/-- A variable whose path does not go on in the section has none there. -/
theorem path?_eq_none (hpart : part ∈ sections) {name : String}
    (h : ∀ keys last, settingPath? name ≠ some (part.name :: (keys ++ [last]))) :
    VariableRules.standard.path? part.name (Text.lower name) = none := by
  rw [Option.eq_none_iff_forall_ne_some]
  rintro ⟨keys, last⟩ hsome
  exact h keys last ((settingPath?_eq_cons_iff hpart name keys last).2 hsome)

/-- A variable either goes on with a path in a section, or it is passed over and adds no nodes
    there. -/
theorem path_or_passedOver [Platform] (layer : TextLayer) (hpart : part ∈ sections)
    {var : String × Value}
    (hvars : AreSettings (var :: vars)) (hwhole : HasNoWhole part (var :: vars)) :
    (∃ keys last, settingPath? var.1 = some (part.name :: (keys ++ [last]))
        ∧ IsKnownPath (part.name :: (keys ++ [last])))
      ∨ (VariableRules.standard.path? part.name (Text.lower var.1) = none
        ∧ ∀ below, definedNodes layer var (part.name :: below) = none) := by
  obtain ⟨path, hpath, hknown⟩ := hvars.known var List.mem_cons_self
  obtain ⟨other, -, keys, hkeys⟩ := hvars.exists_cons (List.mem_cons_self (a := var))
  obtain rfl : path = other.name :: keys := Option.some.inj (hpath.symm.trans hkeys)
  by_cases hname : part.name = other.name
  · rw [← hname] at hpath hknown
    rcases keys.eq_nil_or_concat with rfl | ⟨keys, last, rfl⟩
    · -- Without a text it says nothing about the whole section.
      have hnull : meaning layer [part.name] var.2 = .ok none := by
        rw [hwhole var List.mem_cons_self hpath]
        rfl
      refine .inr ⟨path?_eq_none hpart fun keys last heq => ?_,
        fun below => definedNodes_of_nothing hpath hnull _⟩
      rw [hpath] at heq
      exact absurd (List.cons.inj (Option.some.inj heq)).2.symm (by simp)
    · rw [List.concat_eq_append] at hpath hknown
      exact .inl ⟨keys, last, hpath, hknown⟩
  · refine .inr ⟨path?_eq_none hpart fun keys last heq => ?_,
      fun below => definedNodes_of_ne hpath hname⟩
    rw [hpath] at heq
    exact hname (List.cons.inj (Option.some.inj heq)).1.symm

/-- A value whose path lies apart from those of other variables may come before them or after
    them. -/
theorem placed_or_variableNodes [Platform] {place : List String} (v : Value)
    (hapart : ∀ var ∈ vars, ∀ place', settingPath? var.1 = some place' → Apart place place')
    (key : String) (path : List String) :
    (placed place v (key :: path)).or (variableNodes layer vars (key :: path)) =
      (variableNodes layer vars (key :: path)).or (placed place v (key :: path)) := by
  cases hnode : variableNodes layer vars (key :: path) with
  | none => rw [Option.or_none, Option.none_or]
  | some node =>
    obtain ⟨var, hvar, hdefined⟩ := exists_of_variableNodes hnode
    obtain ⟨place', w, hplace, -, hplaced⟩ := exists_of_definedNodes hdefined
    rw [← hplaced]
    exact placed_or_comm (hapart var hvar place' hplace) v w _

/-- **The variables of a section, one after the other.** Their nodes are added to those that are
    there already, and the mapping stays empty only if there are none. -/
theorem nodeAt?_nested [Platform] (hpart : part ∈ sections) (hvars : AreSettings vars)
    (hwhole : HasNoWhole part vars) {d d' : Document} (hd : (Value.mapping d).HasDistinctKeys)
    (hfree : ∀ var ∈ vars, ∀ place, place ≠ [] → settingPath? var.1 = some (part.name :: place) →
      IsFree (Value.mapping d).nodeAt? place)
    (hread : part.nested .standard layer d (loweredNames vars) = .ok d') :
    (Value.mapping d').HasDistinctKeys
      ∧ (∀ below, (Value.mapping d').nodeAt? below =
        (variableNodes layer vars (part.name :: below)).or ((Value.mapping d).nodeAt? below))
      ∧ (d' = [] ↔ d = [] ∧ variableNodes layer vars [part.name] = none) := by
  -- The induction is on the variables: what was set before never stands in the way.
  induction vars generalizing d with
  | nil =>
    cases hread
    exact ⟨hd, fun below => (Option.none_or).symm, (and_iff_left rfl).symm⟩
  | cons var vars ih =>
    have hrest := hvars.of_cons
    have hwhole' : HasNoWhole part vars := fun other hother =>
      hwhole other (List.mem_cons_of_mem _ hother)
    have hread : part.nested .standard layer d
        ((Text.lower var.1, var.2) :: loweredNames vars) = .ok d' := hread
    rcases path_or_passedOver layer hpart hvars hwhole with
      ⟨keys, last, hpath, hknown⟩ | ⟨hnone, hnodes⟩
    · obtain ⟨w, hmeaning, hnext⟩ :=
        (nested_cons_eq_ok_iff hpart hpath hknown d d' _).1 hread
      have hw : w.HasDistinctKeys := by
        obtain ⟨first, more, hsplit⟩ : ∃ first more, keys ++ [last] = first :: more :=
          List.exists_cons_of_ne_nil (by simp)
        rw [hsplit] at hmeaning
        obtain ⟨u, hu, hkeys⟩ := exists_of_meaning (hvars.texts var List.mem_cons_self) hmeaning
        cases hu
        exact hkeys
      have hdefined := definedNodes_eq hpath hmeaning
      have hapart : ∀ other ∈ vars, ∀ place', settingPath? other.1 = some place' →
          Apart (part.name :: (keys ++ [last])) place' := fun other hother place' hplace' =>
        (List.pairwise_cons.1 hvars.apart).1 other hother _ _ hpath hplace'
      have hown := hfree var List.mem_cons_self _ (by simp) hpath
      have hset := nodeAt?_insertAt hown w
      have hfree' : ∀ other ∈ vars, ∀ place, place ≠ [] →
          settingPath? other.1 = some (part.name :: place) →
          IsFree (Value.mapping (d.insertAt keys last w)).nodeAt? place := by
        intro other hother place hne hplace
        have hbelow : Apart (keys ++ [last]) place := by
          have h := hapart other hother _ hplace
          rw [Apart, List.cons_prefix_cons, List.cons_prefix_cons] at h
          exact ⟨fun hpre => h.1 ⟨rfl, hpre⟩, fun hpre => h.2 ⟨rfl, hpre⟩⟩
        rw [funext hset]
        exact (hfree other (List.mem_cons_of_mem _ hother) place hne hplace).or_placed hbelow w
      obtain ⟨hkeys, hnodes, hempty⟩ := ih hrest hwhole'
        (hasDistinctKeys_insertAt hd keys last hw) hfree' hnext
      refine ⟨hkeys, fun below => ?_, ?_⟩
      · rw [hnodes, hset, variableNodes_cons, hdefined,
          placed_or_variableNodes w hapart, placed_cons_self, Option.or_assoc]
      · rw [hempty, variableNodes_cons, hdefined, placed_cons_self, placed_nil (by simp)]
        simp [insertAt_ne_nil]
    · rw [nested_cons_of_none hnone] at hread
      obtain ⟨hkeys, hbelow, hempty⟩ := ih hrest hwhole' hd
        (fun other hother => hfree other (List.mem_cons_of_mem _ hother)) hread
      refine ⟨hkeys, fun below => ?_, ?_⟩
      · rw [hbelow, variableNodes_cons, hnodes, Option.none_or]
      · rw [hempty, variableNodes_cons, hnodes, Option.none_or]

/-- Variables that can be read are read, one after the other. -/
theorem exists_nested [Platform] (hpart : part ∈ sections) (hvars : AreSettings vars)
    (hwhole : HasNoWhole part vars) (hreadable : ∀ var ∈ vars, IsReadable layer var)
    (d : Document) : ∃ d', part.nested .standard layer d (loweredNames vars) = .ok d' := by
  induction vars generalizing d with
  | nil => exact ⟨d, rfl⟩
  | cons var vars ih =>
    have hnext : ∀ d, ∃ d', part.nested .standard layer d (loweredNames vars) = .ok d' :=
      ih hvars.of_cons (fun other hother => hwhole other (List.mem_cons_of_mem _ hother))
        fun other hother => hreadable other (List.mem_cons_of_mem _ hother)
    have hcons : loweredNames (var :: vars) = (Text.lower var.1, var.2) :: loweredNames vars := rfl
    rw [hcons]
    rcases path_or_passedOver layer hpart hvars hwhole with
      ⟨keys, last, hpath, hknown⟩ | ⟨hnone, -⟩
    · obtain ⟨w?, hmeaning⟩ := hreadable var List.mem_cons_self _ hpath
      obtain ⟨w, rfl⟩ : ∃ w, w? = some w := by
        obtain ⟨first, more, hsplit⟩ : ∃ first more, keys ++ [last] = first :: more :=
          List.exists_cons_of_ne_nil (by simp)
        rw [hsplit] at hmeaning
        obtain ⟨w, hw, -⟩ := exists_of_meaning (hvars.texts var List.mem_cons_self) hmeaning
        exact ⟨w, hw⟩
      obtain ⟨d', hd'⟩ := hnext (d.insertAt keys last w)
      exact ⟨d', (nested_cons_eq_ok_iff hpart hpath hknown d d' _).2 ⟨w, hmeaning, hd'⟩⟩
    · rw [nested_cons_of_none hnone]
      exact hnext d

/-- Variables that are read, one after the other, can be read. -/
theorem isReadable_of_nested [Platform] (hpart : part ∈ sections) (hvars : AreSettings vars)
    (hwhole : HasNoWhole part vars) {d d' : Document}
    (hread : part.nested .standard layer d (loweredNames vars) = .ok d') :
    ∀ var ∈ vars, ∀ keys last, settingPath? var.1 = some (part.name :: (keys ++ [last])) →
      IsReadable layer var := by
  induction vars generalizing d with
  | nil => exact nofun
  | cons var vars ih =>
    have hrest := hvars.of_cons
    have hwhole' : HasNoWhole part vars := fun other hother =>
      hwhole other (List.mem_cons_of_mem _ hother)
    have hread : part.nested .standard layer d
        ((Text.lower var.1, var.2) :: loweredNames vars) = .ok d' := hread
    intro other hother keys last hpath
    rcases path_or_passedOver layer hpart hvars hwhole with
      ⟨keys', last', hpath', hknown⟩ | ⟨hnone, -⟩
    · obtain ⟨w, hmeaning, hnext⟩ :=
        (nested_cons_eq_ok_iff hpart hpath' hknown d d' _).1 hread
      rcases List.mem_cons.1 hother with rfl | hother
      · intro path hsame
        rw [hpath'] at hsame
        cases hsame
        exact ⟨_, hmeaning⟩
      · exact ih hrest hwhole' hnext other hother keys last hpath
    · rw [nested_cons_of_none hnone] at hread
      rcases List.mem_cons.1 hother with rfl | hother
      · rw [settingPath?_eq_cons_iff hpart, hnone] at hpath
        cases hpath
      · exact ih hrest hwhole' hread other hother keys last hpath

/-- Where no variable has a path in the section, nothing is set. -/
theorem nested_eq_self [Platform] (h : ∀ var ∈ vars,
      VariableRules.standard.path? part.name (Text.lower var.1) = none) (d : Document) :
    part.nested .standard layer d (loweredNames vars) = .ok d := by
  induction vars with
  | nil => rfl
  | cons var vars ih =>
    have hcons : loweredNames (var :: vars) = (Text.lower var.1, var.2) :: loweredNames vars := rfl
    rw [hcons, nested_cons_of_none (h var List.mem_cons_self)]
    exact ih fun other hother => h other (List.mem_cons_of_mem _ hother)

/-! ### A section -/

/-- The keys of the fields match the fields. -/
theorem fieldName_eq_self (hpart : part ∈ sections) {field : String}
    (h : field ∈ part.fieldNames) : part.fieldName field = field := by
  have hall : ∀ part ∈ sections, ∀ field ∈ part.fieldNames, part.fieldName field = field := by
    decide
  exact hall part hpart field h

/-- The variables of a section set nothing but its fields. -/
theorem mem_fieldNames [Platform] (hpart : part ∈ sections) (hvars : AreSettings vars)
    (hwhole : HasNoWhole part vars) {key : String} {node : Node}
    (h : variableNodes layer vars [part.name, key] = some node) : key ∈ part.fieldNames := by
  have hsame : ∀ part ∈ sections, ∀ other ∈ sections, part.name = other.name →
      part.fieldNames = other.fieldNames := by decide
  have hplace : ∀ (name first : String) (more : List String) (v : Value),
      placed (name :: first :: more) v [part.name, key] = some node →
      part.name = name ∧ key = first := by
    intro name first more v hplaced
    by_cases hname : part.name = name
    · by_cases hkey : key = first
      · exact ⟨hname, hkey⟩
      · rw [hname, placed_cons_self, placed_cons_of_ne hkey] at hplaced
        cases hplaced
    · rw [placed_cons_of_ne hname] at hplaced
      cases hplaced
  obtain ⟨var, hvar, hdefined⟩ := exists_of_variableNodes h
  obtain ⟨place, v, hpath, hmeaning, hplaced⟩ := exists_of_definedNodes hdefined
  obtain ⟨path, hpath', hknown⟩ := hvars.known var hvar
  obtain rfl : place = path := Option.some.inj (hpath.symm.trans hpath')
  rcases hknown with ⟨other, hother, rfl | ⟨field, hfield, rfl⟩⟩ | ⟨first, more, rfl⟩
  · -- The variable of the whole section says nothing.
    by_cases hname : part.name = other.name
    · rw [← hname] at hpath hmeaning
      rw [hwhole var hvar hpath] at hmeaning
      cases hmeaning
    · rw [placed_cons_of_ne hname] at hplaced
      cases hplaced
  · obtain ⟨hname, rfl⟩ := hplace _ _ _ _ hplaced
    rw [hsame part hpart other hother hname]
    exact hfield
  · obtain ⟨hname, rfl⟩ := hplace _ _ _ _ hplaced
    have hextra : ∀ part ∈ sections, part.name = "connection" → "extra" ∈ part.fieldNames := by
      decide
    exact hextra part hpart hname

/-- **A section without a variable of its own**: the tree of what is read is that of the other
    variables. -/
theorem nodes_of_nested [Platform] (hpart : part ∈ sections) (hvars : AreSettings vars)
    (hwhole : HasNoWhole part vars) {d : Document} {v? : Option Value}
    (hread : part.nested .standard layer [] (loweredNames vars) = .ok d)
    (hv : v? = if d.isEmpty then none else some (.mapping (part.matchFields .standard d))) :
    (∀ v, v? = some v → v.HasDistinctKeys)
      ∧ ∀ below, (v?.bind fun v => v.nodeAt? below) =
        variableNodes layer vars (part.name :: below) := by
  -- At the start nothing is there, so that every place is free.
  obtain ⟨hkeys, hnodes, hempty⟩ := nodeAt?_nested hpart hvars hwhole
    Value.hasDistinctKeys_empty (fun _ _ place hne _ => isFree_empty hne) hread
  have hbelow : ∀ key path, (Value.mapping d).nodeAt? (key :: path) =
      variableNodes layer vars (part.name :: key :: path) := by
    intro key path
    rw [hnodes]
    exact Option.or_none
  by_cases hd : d = []
  · subst hd
    subst hv
    refine ⟨nofun, fun below => ?_⟩
    cases below with
    | nil => exact (hempty.1 rfl).2.symm
    | cons key path => exact hbelow key path
  -- All keys are names of fields already, so matching them changes nothing.
  · have hmatch : part.matchFields .standard d = d := by
      have hfields : ∀ e ∈ d, (part.fieldName e.1, e.2) = e := by
        intro e he
        have hnode : variableNodes layer vars [part.name, e.1] = some e.2.node := by
          rw [← hbelow, Value.nodeAt?_mapping_cons, get?_of_mem (hkeys [] d rfl) he]
          rfl
        exact Prod.ext (fieldName_eq_self hpart (mem_fieldNames hpart hvars hwhole hnode)) rfl
      rw [Section.matchFields, if_neg (by decide), List.map_congr_left hfields, List.map_id']
      exact ofEntries_eq_self (hkeys [] d rfl)
    rw [if_neg (by rwa [List.isEmpty_iff]), hmatch] at hv
    subst hv
    refine ⟨fun v hv => Option.some.inj hv ▸ hkeys, fun below => ?_⟩
    cases below with
    | nil =>
      have hnode := hnodes []
      cases hvariable : variableNodes layer vars [part.name] with
      | none => exact absurd (hempty.2 ⟨rfl, hvariable⟩) hd
      | some node =>
        rw [hvariable] at hnode
        exact hnode
    | cons key path => exact hbelow key path

/-- What a text for a whole section says has distinct keys. -/
theorem hasDistinctKeys_of_whole {v w : Value} (hv : v.HasDistinctKeys)
    (h : part.whole v = some w) : w.HasDistinctKeys := by
  cases v with
  | null => cases h
  | mapping d =>
    cases h
    obtain ⟨hown, hbelow⟩ := (Value.hasDistinctKeys_mapping_iff d).1 hv
    rw [Section.matchFields, if_neg (by decide)]
    refine hasDistinctKeys_ofEntries fun e he => ?_
    obtain ⟨entry, hentry, rfl⟩ := List.mem_map.1 he
    exact hbelow entry.1 entry.2 (get?_of_mem hown hentry)
  | _ =>
    cases h
    exact hv

/-- A variable of the section stands for what its JSON text says. -/
theorem meaning_whole [Platform] (hpart : part ∈ sections) {v : Value} (hv : v ≠ .null) :
    meaning layer [part.name] v = part.whole <$> readJson layer.sectionDepth v := by
  have hfind : (sections.find? fun other => other.name == part.name) = some part := by
    rcases List.mem_pair.1 hpart with rfl | rfl <;> rfl
  cases v with
  | null => exact absurd rfl hv
  | _ => rw [meaning, hfind]; exact nofun

/-- What is made of the content of a text for a whole section, where nothing else is set. -/
theorem bind_whole_eq [Platform] (content : Except Error Value) {selected : Variables}
    (hnested : part.nested .standard layer [] selected = .ok []) :
    (do
      match ← content with
      | .null => return none
      | .mapping whole =>
        let d ← part.nested .standard layer [] selected
        return some (.mapping (part.matchFields .standard (Document.merge whole d)))
      | v => return some v) = part.whole <$> content := by
  cases content with
  | error e => rfl
  | ok w =>
    cases w with
    | mapping whole =>
      have hmerge : Document.merge whole [] = whole := by rw [Document.merge]
      have hset : (part.nested .standard layer [] selected >>= fun d =>
          pure (some (Value.mapping (part.matchFields .standard (Document.merge whole d))))) =
          Except.ok (some (.mapping (part.matchFields .standard whole))) := by
        rw [hnested, ← hmerge]
        rfl
      exact hset
    | _ => rfl

/-- A section with a variable of its own is what that says, if no other variable is in the way. -/
theorem read_of_whole [Platform] {selected : Variables} {v : Value} (hv : v ≠ .null)
    (htext : v.codes?.isSome = true)
    (hlookup : selected.lookup (VariableRules.standard.variableName part.name) = some v)
    (hnested : part.nested .standard layer [] selected = .ok []) :
    part.read .standard layer selected =
      (part.whole <$> readJson layer.sectionDepth v).mapError (part.unreadable layer) := by
  rw [Section.read, hlookup, ← map_mapError]
  cases v with
  | null => exact absurd rfl hv
  | str _ => exact bind_whole_eq _ hnested
  | brokenStr _ => exact bind_whole_eq _ hnested
  | _ => cases htext

/-- Beside the variable of a section no other one has a path there. -/
theorem eq_or_passedOver [Platform] (layer : TextLayer) (hpart : part ∈ sections)
    (hvars : AreSettings vars)
    {var : String × Value} (hvar : var ∈ vars) (hpath : settingPath? var.1 = some [part.name])
    {other : String × Value} (hother : other ∈ vars) :
    VariableRules.standard.path? part.name (Text.lower other.1) = none
      ∧ (other = var ∨ ∀ below, definedNodes layer other (part.name :: below) = none) := by
  by_cases hsame : other = var
  · subst hsame
    refine ⟨path?_eq_none hpart fun keys last heq => ?_, .inl rfl⟩
    rw [hpath] at heq
    exact absurd (List.cons.inj (Option.some.inj heq)).2.symm (by simp)
  · obtain ⟨first, -, keys, hkeys⟩ := hvars.exists_cons hother
    have hne : part.name ≠ first.name := by
      intro hname
      rw [← hname] at hkeys
      exact (hvars.apart_of_ne hvar hother (Ne.symm hsame) hpath hkeys).1 ⟨keys, rfl⟩
    refine ⟨path?_eq_none hpart fun more last heq => ?_,
      .inr fun below => definedNodes_of_ne hkeys hne⟩
    rw [hkeys] at heq
    exact hne (List.cons.inj (Option.some.inj heq)).1.symm

/-- A section either has no variable of its own, or it is read from that alone. -/
theorem noWhole_or_read [Platform] (layer : TextLayer) (hpart : part ∈ sections)
    (hvars : AreSettings vars) :
    (HasNoWhole part vars
        ∧ part.read .standard layer (loweredNames vars) = (do
          let d ← part.nested .standard layer [] (loweredNames vars)
          return if d.isEmpty then none else some (.mapping (part.matchFields .standard d))))
      ∨ ∃ var ∈ vars, settingPath? var.1 = some [part.name] ∧ var.2 ≠ .null
        ∧ part.read .standard layer (loweredNames vars) =
          (part.whole <$> readJson layer.sectionDepth var.2).mapError (part.unreadable layer) := by
  have hlookup := exists_of_lookup vars hpart
  cases hfound : (loweredNames vars).lookup (VariableRules.standard.variableName part.name) with
  | none =>
    rw [hfound] at hlookup
    refine .inl ⟨fun var hvar hpath => absurd hpath (hlookup var hvar), ?_⟩
    rw [Section.read, hfound]
  | some v =>
    rw [hfound] at hlookup
    obtain ⟨var, hvar, hpath, rfl⟩ := hlookup
    have hother : ∀ other ∈ vars,
        VariableRules.standard.path? part.name (Text.lower other.1) = none := fun other hother =>
      (eq_or_passedOver layer hpart hvars hvar hpath hother).1
    -- A variable without a text says nothing, so the section is read as if it were not there.
    by_cases hnull : var.2 = .null
    · refine .inl ⟨fun other hmem hown => ?_, ?_⟩
      · by_cases hsame : other = var
        · rw [hsame]
          exact hnull
        · exact absurd List.prefix_rfl (hvars.apart_of_ne hmem hvar hsame hown hpath).1
      · rw [Section.read, hfound, hnull]
    · have htext := (hvars.texts var hvar).resolve_left hnull
      have hnested : part.nested .standard layer [] (loweredNames vars) = .ok [] :=
        nested_eq_self hother []
      exact .inr ⟨var, hvar, hpath, hnull, read_of_whole hnull htext hfound hnested⟩

/-- **What a layer says about a section** is the tree of its variables there. -/
theorem nodes_of_read [Platform] (hpart : part ∈ sections) (hvars : AreSettings vars)
    {v? : Option Value} (hread : part.read .standard layer (loweredNames vars) = .ok v?) :
    (∀ v, v? = some v → v.HasDistinctKeys)
      ∧ ∀ below, (v?.bind fun v => v.nodeAt? below) =
        variableNodes layer vars (part.name :: below) := by
  rcases noWhole_or_read layer hpart hvars with
    ⟨hwhole, heq⟩ | ⟨var, hvar, hpath, hnull, heq⟩
  · rw [heq] at hread
    obtain ⟨d, hd, hv⟩ := bind_eq_ok_iff.1 hread
    exact nodes_of_nested hpart hvars hwhole hd (Except.ok.inj hv).symm
  · rw [heq, mapError_eq_ok_iff] at hread
    have hmeaning : meaning layer [part.name] var.2 = .ok v? := by
      rw [meaning_whole hpart hnull]
      exact hread
    -- No other variable has a path in the section, so the tree there is that of this one.
    have hfirst : ∀ below, variableNodes layer vars (part.name :: below) =
        definedNodes layer var (part.name :: below) := fun below =>
      findSome?_eq_of_unique hvar fun other hother =>
        (eq_or_passedOver layer hpart hvars hvar hpath hother).2.imp_right fun h => h below
    obtain ⟨w, hjson, hw⟩ := map_eq_ok_iff.1 hread
    refine ⟨fun v hv => hasDistinctKeys_of_whole (hasDistinctKeys_of_readJson hjson)
      (hw.trans hv), fun below => ?_⟩
    rw [hfirst]
    cases v? with
    | none => rw [definedNodes_of_nothing hpath hmeaning, Option.bind_none]
    | some v =>
      rw [definedNodes_eq hpath hmeaning, placed_cons_self, Option.bind_some]
      exact (if_pos List.nil_prefix).symm

/-- A section whose variables can be read is read. -/
theorem exists_read [Platform] (hpart : part ∈ sections) (hvars : AreSettings vars)
    (hreadable : ∀ var ∈ vars, IsReadable layer var) :
    ∃ v?, part.read .standard layer (loweredNames vars) = .ok v? := by
  rcases noWhole_or_read layer hpart hvars with
    ⟨hwhole, heq⟩ | ⟨var, hvar, hpath, hnull, heq⟩
  · obtain ⟨d, hd⟩ := exists_nested hpart hvars hwhole hreadable []
    rw [heq, hd]
    exact ⟨_, rfl⟩
  · obtain ⟨v?, hv⟩ := hreadable var hvar _ hpath
    rw [meaning_whole hpart hnull] at hv
    rw [heq, hv]
    exact ⟨_, rfl⟩

/-- The variables of a section that is read can be read. -/
theorem isReadable_of_read [Platform] (hpart : part ∈ sections) (hvars : AreSettings vars)
    {v? : Option Value} (hread : part.read .standard layer (loweredNames vars) = .ok v?) :
    ∀ var ∈ vars, ∀ keys, settingPath? var.1 = some (part.name :: keys) →
      IsReadable layer var := by
  intro other hother keys hkeys
  rcases noWhole_or_read layer hpart hvars with
    ⟨hwhole, heq⟩ | ⟨var, hvar, hpath, hnull, heq⟩
  · rcases keys.eq_nil_or_concat with rfl | ⟨keys, last, rfl⟩
    · intro path hsame
      rw [hkeys] at hsame
      cases hsame
      rw [hwhole other hother hkeys]
      exact ⟨none, rfl⟩
    · rw [List.concat_eq_append] at hkeys
      rw [heq] at hread
      obtain ⟨d, hd, -⟩ := bind_eq_ok_iff.1 hread
      exact isReadable_of_nested hpart hvars hwhole hd other hother keys last hkeys
  · by_cases hsame : var = other
    · subst hsame
      intro path hpath'
      rw [hpath] at hpath'
      cases hpath'
      rw [heq, mapError_eq_ok_iff, ← meaning_whole hpart hnull] at hread
      exact ⟨v?, hread⟩
    · exact absurd ⟨keys, rfl⟩ (hvars.apart_of_ne hvar hother hsame hpath hkeys).1

end RecordSearch
