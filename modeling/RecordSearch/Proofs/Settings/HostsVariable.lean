import RecordSearch.Proofs.Json.Inside
import RecordSearch.Proofs.Settings.Hosts
import RecordSearch.Proofs.Settings.Loading

namespace RecordSearch

/-!
# Hosts in a variable

The hosts of a connection may be given as a text, and the same text may stand in a variable of the
environment. There it is decoded twice: a setting that holds a list is read as a JSON text first,
and what comes out of that is given to the connection, which takes a text for a JSON text or for the
name of one host. So the name of a host, which is no JSON text, does not get through the first
reading, and any other JSON text is given as what it holds instead of as a text.

* `hostsByText`, `hostsByVariable`: the hosts of a text, given directly and by the variable;
* `SameHosts`: the variable gives the hosts that the text gives;
* `ListsTexts`: the JSON text of a list of texts.

`hostsByVariable_eq` says that the one route is the other after a reading, and
`hosts_by_variable` on which texts they agree.
-/

/-! ### Two routes -/

/-- The name of the variable of the hosts. -/
def hostsVariableName : String := "ELASTICSCOUT_CONNECTION__HOSTS"

/-- The hosts of a connection that are given as a text. -/
def hostsByText [Platform] (text : String) : Except Error (List String) :=
  ConnectionSettings.hostsFrom (.str text) >>= Checked.toExcept

/-- The hosts of settings that are loaded with one variable alone, that of the hosts. -/
def hostsByVariable [Platform] (text : String) : Except Error (List String) :=
  (fun settings => settings.connection.hosts) <$>
    Settings.load [] [(hostsVariableName, .str text)] []

/-- **The routes agree on a text**: hosts that it gives directly, it gives by the variable. -/
def SameHosts [Platform] (text : String) : Prop :=
  ∀ hosts, hostsByText text = .ok hosts → hostsByVariable text = .ok hosts

/-- The most levels of lists and mappings in the text of a single variable. -/
def variableDepth [Platform] : Nat := TextLayer.environment.sectionDepth - 1

/-- **The JSON text of a list of texts**, where surrogates that stand alone are replaced. -/
def ListsTexts [Platform] (text : String) (hosts : List String) : Prop :=
  ∃ items, Json.IsText variableDepth text.toList (.list items)
    ∧ List.Forall₂ (fun item host => item.str? = some host) items hosts

/-! ### The variable is read -/

theorem lower_hostsVariableName :
    Text.lower hostsVariableName = "elasticscout_connection__hosts" := by decide

/-- The variable is compared by its name in lower case. -/
theorem select_hostsVariable (text : String) :
    VariableRules.standard.select [(hostsVariableName, .str text)] =
      [("elasticscout_connection__hosts", .str text)] := by
  show [(Text.lower hostsVariableName, Value.str text)] = _
  rw [lower_hostsVariableName]

/-- The variable sets the hosts to what its text holds. -/
theorem read_connection_hosts [Platform] {text : String} (hne : text ≠ "") :
    connectionSection.read .standard .environment [("elasticscout_connection__hosts", .str text)]
      = (fun v => some (.mapping [("hosts", v)])) <$>
        (Json.readTextKeyed variableDepth text).mapError
          (connectionSection.unreadable .environment) := by
  have hjson : connectionSection.isJson .standard [] "hosts" (.str text) = true := by
    have hfull : (Value.str text).isEmptyText = false := by simpa [Value.isEmptyText] using hne
    rw [Section.isJson, hfull]
    rfl
  have hlookup : List.lookup (VariableRules.standard.variableName connectionSection.name)
      [("elasticscout_connection__hosts", Value.str text)] = none := rfl
  have hpath : VariableRules.standard.path? connectionSection.name
      "elasticscout_connection__hosts" = some ([], "hosts") := by decide
  have hfield : connectionSection.fieldName "hosts" = "hosts" := by decide
  have hmatch : ∀ v, connectionSection.matchFields .standard [("hosts", v)] = [("hosts", v)] := by
    intro v
    rw [Section.matchFields, if_neg (by decide), List.map_cons, List.map_nil, hfield]
    rfl
  -- No variable gives the section itself, and the one variable is that of the hosts.
  rw [Section.read, hlookup]
  dsimp only
  rw [Section.nested, hpath]
  dsimp only
  rw [Section.settingValue, hjson, if_pos rfl, readJson]
  show _ = _ <$> (Json.readTextKeyed (TextLayer.environment.sectionDepth - 1) text).mapError _
  cases Json.readTextKeyed (TextLayer.environment.sectionDepth - 1) text with
  | error problem => rfl
  | ok v =>
    show Except.ok (some (Value.mapping (connectionSection.matchFields .standard
      [("hosts", v)]))) = _
    rw [hmatch]
    rfl

/-- The layer of the environment has the hosts and nothing else. -/
theorem environmentLayer_hosts [Platform] {text : String} (hne : text ≠ "") :
    environmentLayer .standard [(hostsVariableName, .str text)]
      = (fun v => [("connection", .mapping [("hosts", v)])]) <$>
        (Json.readTextKeyed variableDepth text).mapError
          (connectionSection.unreadable .environment) := by
  have hother : observabilitySection.read .standard .environment
      [("elasticscout_connection__hosts", .str text)] = .ok none := rfl
  rw [environmentLayer, select_hostsVariable, sections, readSections, readSections, readSections,
    read_connection_hosts hne, hother]
  cases Json.readTextKeyed variableDepth text with
  | error problem => rfl
  | ok v => rfl

/-- Settings that are checked with hosts alone have those of a connection with them. -/
theorem hosts_check [Platform] (v : Value) :
    (fun settings => settings.connection.hosts) <$>
        Settings.check [("connection", .mapping [("hosts", v)])] true
      = ConnectionSettings.hostsFrom v >>= fun checked =>
        (Checked.inside (.field "connection") checked).toExcept := by
  have hfields : Document.get? [("connection", Value.mapping [("hosts", v)])] "connection" =
      some (.mapping [("hosts", v)]) := rfl
  rw [Settings.check, hfields, Settings.checkConnection, ConnectionSettings.hostsFrom]
  cases ConnectionSettings.check [("hosts", v)] with
  | error problem => rfl
  | ok checked =>
    cases checked with
    | valid settings => rfl
    | invalid faults => rfl

/-- **The variable is read once more.** What its text holds as a JSON text, with text as the keys
    of mappings, is given as hosts. -/
theorem hostsByVariable_eq [Platform] {text : String} (hne : text ≠ "") :
    hostsByVariable text = (do
      let v ← (Json.readTextKeyed variableDepth text).mapError
        (connectionSection.unreadable .environment)
      let checked ← ConnectionSettings.hostsFrom v
      (Checked.inside (.field "connection") checked).toExcept) := by
  have hread : readEnvFiles [] [(hostsVariableName, .str text)] none .null .null = .ok [] := rfl
  rw [hostsByVariable, load_eq (by decide) rfl hread, environmentLayer_hosts hne]
  cases Json.readTextKeyed variableDepth text with
  | error problem => rfl
  | ok v =>
    have hmerge : Settings.mergeLayers (givenLayer []) [("connection", .mapping [("hosts", v)])] []
        = [("connection", .mapping [("hosts", v)])] := by
      have hgiven : givenLayer [] = [] := rfl
      rw [Settings.mergeLayers, hgiven, Document.merge, Document.merge, Document.merge]
      rfl
    -- What is read and what is checked meet in the merged layers.
    show (fun settings => settings.connection.hosts) <$>
      Settings.check (Settings.mergeLayers (givenLayer []) _ []) true = _
    rw [hmerge, hosts_check]
    rfl

/-- The variable gives hosts if what its text holds does. -/
theorem hostsByVariable_eq_ok_iff [Platform] {text : String} (hne : text ≠ "")
    (hosts : List String) :
    hostsByVariable text = .ok hosts ↔ ∃ w, Json.IsText variableDepth text.toList w
      ∧ ConnectionSettings.checkHosts (some w.withTextKeys) = .ok (.valid hosts) := by
  rw [hostsByVariable_eq hne, bind_eq_ok_iff]
  constructor
  · rintro ⟨v, hv, h⟩
    obtain ⟨w, hw, rfl⟩ := map_eq_ok_iff.1 (mapError_eq_ok_iff.1 hv)
    obtain ⟨checked, hchecked, h⟩ := bind_eq_ok_iff.1 h
    obtain rfl := Checked.inside_eq_valid_iff.1 (Checked.toExcept_eq_ok_iff.1 h)
    exact ⟨w, Json.readChars_eq_ok_iff.1 hw, by rwa [← ConnectionSettings.hostsFrom_eq]⟩
  · rintro ⟨w, hw, h⟩
    refine ⟨w.withTextKeys, mapError_eq_ok_iff.2 ?_, ?_⟩
    · exact map_eq_ok_iff.2 ⟨w, Json.readChars_eq_ok_iff.2 hw, rfl⟩
    · rw [ConnectionSettings.hostsFrom_eq, h]
      rfl

/-! ### Members that are texts -/

/-- The hosts are those members of a value that are texts, which all of them must be. -/
theorem checkHosts_eq_ok_iff [Platform] {v : Value} {hosts : List String} :
    ConnectionSettings.checkHosts (some v) = .ok (.valid hosts) ↔
      ∃ members, hostMembers v = .ok (.valid members)
        ∧ List.Forall₂ (fun m host => Checked.text m = .valid host) members hosts := by
  rw [ConnectionSettings.checkHosts, bind_eq_ok_iff]
  constructor
  · rintro ⟨checked, hmembers, h⟩
    obtain ⟨members, rfl, hall⟩ := Checked.andThen_eq_valid_iff.1
      (Checked.inside_eq_valid_iff.1 (Except.ok.inj h))
    exact ⟨members, hmembers, Checked.all_eq_valid_iff.1 hall⟩
  · rintro ⟨members, hmembers, hall⟩
    exact ⟨_, hmembers, congrArg Except.ok (Checked.inside_eq_valid_iff.2
      (Checked.andThen_eq_valid_iff.2 ⟨members, rfl, Checked.all_eq_valid_iff.2 hall⟩))⟩

/-- Of what JSON texts hold, the texts pass the check for text, and nothing else does. -/
theorem text_withTextKeys_iff {bound : Nat} {v : Value} (h : v.Within bound) {host : String} :
    Checked.text v.withTextKeys = .valid host ↔ v.str? = some host := by
  cases h with
  | str =>
    exact ⟨fun h => congrArg some (Checked.valid.inj h), fun h => congrArg _ (Option.some.inj h)⟩
  | broken =>
    exact ⟨fun h => congrArg some (Checked.valid.inj h), fun h => congrArg _ (Option.some.inj h)⟩
  | _ => exact ⟨nofun, nofun⟩

/-- The host of a member of a list is the text that it is, if it is one. -/
theorem text_hostOf_of_str? {v : Value} {host : String} (h : v.str? = some host) :
    Checked.text (hostOf v) = .valid host := by
  cases v with
  | str s => exact congrArg Checked.valid (Option.some.inj h)
  | brokenStr codes => exact congrArg Checked.valid (Option.some.inj h)
  | _ => cases h

/-- The members of a list have hosts, whatever they are. -/
theorem exists_hosts_of_items (items : List Value) :
    ∃ hosts,
      List.Forall₂ (fun m host => Checked.text m = .valid host) (items.map hostOf) hosts := by
  induction items with
  | nil => exact ⟨[], .nil⟩
  | cons item items ih =>
    obtain ⟨hosts, hhosts⟩ := ih
    obtain ⟨host, hhost⟩ : ∃ host, Checked.text (hostOf item) = .valid host := by
      cases item <;> exact ⟨_, rfl⟩
    exact ⟨host :: hosts, .cons hhost hhosts⟩

/-- A text gives the members of the list that it holds, or itself, or nothing. -/
theorem members_of_hostsOfText {v : Value} {content : Except Json.Problem Value}
    {members : List Value} (h : hostsOfText v content = .ok (.valid members)) :
    (∃ items, content = .ok (.list items) ∧ members = items.map hostOf)
      ∨ members = [v] ∨ members = [] := by
  unfold hostsOfText at h
  split at h
  · rename_i items
    exact .inl ⟨items, rfl, (Checked.valid.inj (Except.ok.inj h)).symm⟩
  · cases h
  · cases h
  · refine .inr ?_
    split at h <;> cases h
    · exact .inl rfl
    · exact .inr rfl

/-! ### Given directly -/

theorem hostsByText_eq_ok_iff [Platform] (text : String) (hosts : List String) :
    hostsByText text = .ok hosts ↔
      ConnectionSettings.checkHosts (some (.str text)) = .ok (.valid hosts) := by
  rw [hostsByText, ConnectionSettings.hostsFrom_eq, bind_eq_ok_iff]
  constructor
  · rintro ⟨checked, hchecked, h⟩
    rwa [Checked.toExcept_eq_ok_iff.1 h] at hchecked
  · intro h
    exact ⟨_, h, rfl⟩

/-- The text of a variable is read with fewer levels than that of the hosts. -/
theorem variableDepth_le [Platform] : variableDepth ≤ Platform.hostsDepth := by
  rw [variableDepth, TextLayer.sectionDepth, Platform.hostsDepth]
  omega

/-- What is read at fewer levels is read. -/
theorem read_of_isText [Platform] {text : String} {v : Value}
    (h : Json.IsText variableDepth text.toList v) : Json.read Platform.hostsDepth text = .ok v :=
  Json.readChars_eq_ok_iff.2 (h.mono variableDepth_le)

/-- A JSON text of anything but a list is the name of a host. -/
theorem hostsByText_of_isText [Platform] {text : String} (hne : text ≠ "") {v : Value}
    (h : Json.IsText variableDepth text.toList v) (hlist : ∀ items, v ≠ .list items) :
    hostsByText text = .ok [text] := by
  have hread := read_of_isText h
  have hlimits : Json.IsWithinLimits Platform.hostsDepth text := by
    intro problem hproblem
    rw [hread] at hproblem
    cases hproblem
  have hname := ConnectionSettings.hostsFrom_of_not_isText hlimits fun items hitems =>
    hlist items ((h.mono variableDepth_le).unique hitems)
  rw [if_neg hne] at hname
  rw [hostsByText, hname]
  rfl

/-- A text within the limits always gives hosts. -/
theorem exists_hostsByText [Platform] {text : String}
    (h : Json.IsWithinLimits Platform.hostsDepth text) :
    ∃ hosts, hostsByText text = .ok hosts := by
  by_cases hitems : ∃ items, Json.IsText Platform.hostsDepth text.toList (.list items)
  · obtain ⟨items, hitems⟩ := hitems
    obtain ⟨hosts, hhosts⟩ := exists_hosts_of_items items
    have hmembers : hostMembers (.str text) = .ok (.valid (items.map hostOf)) := by
      rw [hostMembers, Json.read, Json.readChars_eq_ok_iff.2 hitems, hostsOfText]
    exact ⟨hosts, (hostsByText_eq_ok_iff ..).2 (checkHosts_eq_ok_iff.2 ⟨_, hmembers, hhosts⟩)⟩
  · have hname := ConnectionSettings.hostsFrom_of_not_isText h (not_exists.1 hitems)
    exact ⟨_, by rw [hostsByText, hname]; rfl⟩

/-- A text beyond the limits gives no hosts in either way. -/
theorem no_hosts_beyond_limits [Platform] {text : String} (hne : text ≠ "")
    (h : ¬ Json.IsWithinLimits Platform.hostsDepth text) (hosts : List String) :
    hostsByText text ≠ .ok hosts ∧ hostsByVariable text ≠ .ok hosts := by
  simp only [Json.IsWithinLimits, not_forall] at h
  obtain ⟨problem, hproblem, hlimit⟩ := h
  constructor
  · intro hdirect
    obtain ⟨members, hmembers, -⟩ := checkHosts_eq_ok_iff.1 ((hostsByText_eq_ok_iff ..).1 hdirect)
    rw [hostMembers, hproblem] at hmembers
    cases problem with
    | malformed fault left => exact hlimit ⟨fault, left, rfl⟩
    | tooManyDigits digits => cases hmembers
    | tooDeep nesting => cases hmembers
  · intro hvariable
    obtain ⟨w, hw, -⟩ := (hostsByVariable_eq_ok_iff hne hosts).1 hvariable
    cases hproblem.symm.trans (read_of_isText hw)

/-! ### Where the routes agree -/

/-- A list of texts gives them by both routes. -/
theorem hosts_of_listsTexts [Platform] {text : String} {hosts : List String}
    (h : ListsTexts text hosts) :
    hostsByText text = .ok hosts ∧ hostsByVariable text = .ok hosts := by
  obtain ⟨items, hitems, htexts⟩ := h
  have hne : text ≠ "" := by
    rintro rfl
    cases Json.readChars_eq_ok_iff.2 hitems
  constructor
  · rw [hostsByText_eq_ok_iff, checkHosts_eq_ok_iff]
    refine ⟨items.map hostOf, ?_, ?_⟩
    · rw [hostMembers, read_of_isText hitems, hostsOfText]
    · exact List.forall₂_map_left_iff.2 (htexts.imp fun _ _ => text_hostOf_of_str?)
  · rw [hostsByVariable_eq_ok_iff hne]
    refine ⟨_, hitems, checkHosts_eq_ok_iff.2 ⟨items.map Value.withTextKeys, ?_, ?_⟩⟩
    · rw [Value.withTextKeys_list]
      rfl
    · refine List.forall₂_map_left_iff.2 (htexts.imp fun item host hhost => ?_)
      cases item with
      | str s => exact congrArg Checked.valid (Option.some.inj hhost)
      | brokenStr codes => exact congrArg Checked.valid (Option.some.inj hhost)
      | _ => cases hhost

/-- No member of a list inside a string is the text of the string: a text is shorter, and nothing
    else is written like one. -/
theorem text_hostOf_ne {text : String} (hquoted : StartsQuoted text) {v : Value}
    (h : v.Within text.length) : Checked.text (hostOf v) ≠ .valid text := by
  intro htext
  -- A literal with codes is a quoted text; the others do not start with a quote.
  cases hcodes : v.codes? with
  | none =>
    have hliteral : v.literal = text := by
      cases v with
      | str s => cases hcodes
      | brokenStr codes => cases hcodes
      | _ => exact Checked.valid.inj htext
    rw [← hliteral] at hquoted
    exact not_startsQuoted_literal h hcodes hquoted
  | some codes =>
    cases h with
    -- A string inside the text is shorter than the text, so it is not that text.
    | @str s hshort =>
      obtain rfl : s = text := Checked.valid.inj htext
      exact absurd hshort (Nat.lt_irrefl _)
    | @broken codes hshort =>
      obtain rfl : Text.ofCodes codes = text := Checked.valid.inj htext
      rw [Text.ofCodes, String.length_ofList, List.length_map] at hshort
      exact absurd hshort (Nat.lt_irrefl _)
    | _ => cases hcodes

/-- What a string holds gives no host that is the text of the string. -/
theorem not_mem_hosts_of_string [Platform] {text : String} (hquoted : StartsQuoted text) {v : Value}
    (h : v.Within text.length) (hcodes : v.codes? ≠ none) {hosts : List String}
    (hhosts : ConnectionSettings.checkHosts (some v) = .ok (.valid hosts)) : text ∉ hosts := by
  intro hmem
  obtain ⟨members, hmembers, hall⟩ := checkHosts_eq_ok_iff.1 hhosts
  obtain ⟨m, hm, htext⟩ := exists_of_mem_right hall hmem
  -- Either way the text is decoded again, and what it holds is shorter still.
  have hcontent : ∃ content, hostsOfText v content = .ok (.valid members)
      ∧ ∀ items, content = .ok (.list items) → ∀ item ∈ items, item.Within text.length := by
    cases h with
    | @str s hshort =>
      refine ⟨Json.read Platform.hostsDepth s, hmembers, fun items hitems item hitem => ?_⟩
      have hwithin := (Json.readChars_eq_ok_iff.1 hitems).within
      rw [String.length_toList] at hwithin
      cases hwithin with
      | list hall => exact (hall item hitem).mono hshort.le
    | @broken codes hshort =>
      refine ⟨_, hmembers, fun items hitems item hitem => ?_⟩
      cases Json.within_of_readCodes hitems with
      | list hall => exact (hall item hitem).mono hshort.le
    | _ => exact absurd rfl hcodes
  obtain ⟨content, hcontent, hitems⟩ := hcontent
  rcases members_of_hostsOfText hcontent with ⟨items, hlist, rfl⟩ | rfl | rfl
  · obtain ⟨item, hitem, rfl⟩ := List.mem_map.1 hm
    exact text_hostOf_ne hquoted (hitems items hlist item hitem) htext
  · have hown : hostOf v = v := by
      cases v with
      | str s => rfl
      | brokenStr codes => rfl
      | _ => exact absurd rfl hcodes
    rw [List.mem_singleton.1 hm, ← hown] at htext
    exact text_hostOf_ne hquoted h htext
  · cases hm

/-- The keys of a mapping are shorter than its text, so that none of them is the text. -/
theorem not_mem_hosts_of_mapping [Platform] {text : String} {d : Document}
    (hkeys : ∀ e ∈ d, e.1.length < text.length) {hosts : List String}
    (hhosts : ConnectionSettings.checkHosts (some (.mapping d)) = .ok (.valid hosts)) :
    text ∉ hosts := by
  rw [checkHosts_mapping] at hhosts
  obtain rfl : d.keys = hosts := Checked.valid.inj (Except.ok.inj hhosts)
  intro hmem
  obtain ⟨e, he, rfl⟩ := List.mem_map.1 hmem
  exact absurd (hkeys e he) (Nat.lt_irrefl _)

/-- **Only lists of texts agree.** Where both routes give the same hosts, the text is the JSON text
    of a list of texts. -/
theorem listsTexts_of_hosts [Platform] {text : String} (hne : text ≠ "") {hosts : List String}
    (hdirect : hostsByText text = .ok hosts) (hvariable : hostsByVariable text = .ok hosts) :
    ListsTexts text hosts := by
  obtain ⟨w, hw, hhosts⟩ := (hostsByVariable_eq_ok_iff hne hosts).1 hvariable
  have hwithin := hw.within
  rw [String.length_toList] at hwithin
  -- What is no list makes the text a name, so that the text itself would be a host.
  have hname : (∀ items, w ≠ .list items) → text ∈ hosts := by
    intro hlist
    rw [hostsByText_of_isText hne hw hlist] at hdirect
    cases hdirect
    exact List.mem_singleton_self text
  cases hwithin with
  | list hall =>
    obtain ⟨members, hmembers, htexts⟩ := checkHosts_eq_ok_iff.1 hhosts
    rw [Value.withTextKeys_list] at hmembers
    cases hmembers
    have hitems := (List.forall₂_and_left _ _).2 ⟨hall, List.forall₂_map_left_iff.1 htexts⟩
    exact ⟨_, hw, hitems.imp fun item host h => (text_withTextKeys_iff h.1).1 h.2⟩
  | str hshort =>
    have hstring := not_mem_hosts_of_string (hw.startsQuoted nofun) (.str hshort) nofun hhosts
    exact absurd (hname nofun) hstring
  | broken hshort =>
    have hstring := not_mem_hosts_of_string (hw.startsQuoted nofun) (.broken hshort) nofun hhosts
    exact absurd (hname nofun) hstring
  | mapping hkeys =>
    rw [Value.withTextKeys_mapping] at hhosts
    refine absurd (hname nofun) (not_mem_hosts_of_mapping (fun e he => ?_) hhosts)
    obtain ⟨own, hown, rfl⟩ := List.mem_map.1 he
    exact hkeys own hown
  | @brokenMapping es hkeys =>
    rw [Value.withTextKeys_brokenMapping] at hhosts
    refine absurd (hname nofun) (not_mem_hosts_of_mapping (fun e he => ?_) hhosts)
    have hmem := mem_of_mem_ofEntries he
    obtain ⟨own, hown, heq⟩ := List.mem_map.1 hmem
    rw [← (Prod.mk.inj heq).1, Text.ofCodes, String.length_ofList, List.length_map]
    exact hkeys own hown
  | null | bool | int | float => cases hhosts

/-! ### Main result -/

/-- **Hosts in a variable.** For any text that is not empty, the variable gives what the text holds
    as a JSON text to the connection. Directly the text gives hosts if it keeps to the limits of
    the reader, and beyond them it gives none in either way. The JSON text of a list of texts gives
    these as hosts, both directly and by the variable. Every other text within the limits gives
    hosts directly that the variable does not give. -/
theorem hosts_by_variable [Platform] (text : String) (hne : text ≠ "") :
    hostsByVariable text = (do
        let v ← (Json.readTextKeyed variableDepth text).mapError
          (connectionSection.unreadable .environment)
        let checked ← ConnectionSettings.hostsFrom v
        (Checked.inside (.field "connection") checked).toExcept)
      ∧ (Json.IsWithinLimits Platform.hostsDepth text → ∃ hosts, hostsByText text = .ok hosts)
      ∧ (¬ Json.IsWithinLimits Platform.hostsDepth text → ∀ hosts,
        hostsByText text ≠ .ok hosts ∧ hostsByVariable text ≠ .ok hosts)
      ∧ (∀ hosts, ListsTexts text hosts →
        hostsByText text = .ok hosts ∧ hostsByVariable text = .ok hosts)
      ∧ (SameHosts text ↔
        (∃ hosts, ListsTexts text hosts) ∨ ¬ Json.IsWithinLimits Platform.hostsDepth text) := by
  refine ⟨hostsByVariable_eq hne, exists_hostsByText, no_hosts_beyond_limits hne,
    fun hosts => hosts_of_listsTexts, ?_⟩
  constructor
  · intro hsame
    -- Within the limits a direct answer exists, and that the variable agrees says what it is.
    by_cases hlimits : Json.IsWithinLimits Platform.hostsDepth text
    · obtain ⟨hosts, hdirect⟩ := exists_hostsByText hlimits
      exact .inl ⟨hosts, listsTexts_of_hosts hne hdirect (hsame hosts hdirect)⟩
    · exact .inr hlimits
  · rintro (⟨hosts, hlists⟩ | hbeyond) others hothers
    · obtain ⟨hdirect, hvariable⟩ := hosts_of_listsTexts hlists
      cases hdirect.symm.trans hothers
      exact hvariable
    · exact absurd hothers (no_hosts_beyond_limits hne hbeyond others).1

attribute [local instance] Platform.plain

/-- Two hosts in a JSON text, with spaces and an escape, are given by both routes. -/
theorem two_hosts_agree :
    "[ \"http:\\/\\/a\", \"https://b:9200\"]" ≠ ""
      ∧ ListsTexts "[ \"http:\\/\\/a\", \"https://b:9200\"]" ["http://a", "https://b:9200"]
      ∧ hostsByVariable "[ \"http:\\/\\/a\", \"https://b:9200\"]" =
        .ok ["http://a", "https://b:9200"]
      ∧ SameHosts "[ \"http:\\/\\/a\", \"https://b:9200\"]" := by
  have hnone : Json.IsSpaces [] := by simp [Json.IsSpaces]
  have hspace : Json.IsSpaces [' '] := by simp [Json.IsSpaces, Json.spaceSigns]
  have hslashes : Json.IsLiteral "http:\\/\\/a".toList (Text.codes "http://a") :=
    Json.isLiteral_of_readString rfl
  have hplain : Json.IsLiteral "https://b:9200".toList (Text.codes "https://b:9200") :=
    Json.isLiteral_of_readString rfl
  have hdepth : variableDepth = 983 + 1 := rfl
  have hdenotes : Json.Denotes (983 + 1) "[ \"http:\\/\\/a\", \"https://b:9200\"]".toList
      (.value (.list [.ofCodes (Text.codes "http://a"), .ofCodes (Text.codes "https://b:9200")])) :=
    .list hspace (.item (.string hslashes) hnone hspace (.lastItem (.string hplain) hnone))
  rw [Json.ofCodes_codes, Json.ofCodes_codes, ← hdepth] at hdenotes
  have hitems : Json.IsText variableDepth "[ \"http:\\/\\/a\", \"https://b:9200\"]".toList
      (.list [.str "http://a", .str "https://b:9200"]) := ⟨[], _, [], hnone, hdenotes, hnone, rfl⟩
  have hlists : ListsTexts "[ \"http:\\/\\/a\", \"https://b:9200\"]"
      ["http://a", "https://b:9200"] := ⟨_, hitems, .cons rfl (.cons rfl .nil)⟩
  obtain ⟨-, -, -, hboth, hsame⟩ :=
    hosts_by_variable "[ \"http:\\/\\/a\", \"https://b:9200\"]" (by decide)
  exact ⟨by decide, hlists, (hboth _ hlists).2, hsame.2 (.inl ⟨_, hlists⟩)⟩

/-- The name of one host is given directly and not by the variable, which is refused as a text
    that cannot be read. -/
theorem single_host_refused :
    "https://a:9200" ≠ "" ∧ hostsByText "https://a:9200" = .ok ["https://a:9200"]
      ∧ hostsByVariable "https://a:9200" =
        .error (.unreadableSetting "connection" .environment)
      ∧ ¬ SameHosts "https://a:9200" := by
  have hread : ∀ depth, Json.readTextKeyed depth "https://a:9200" =
      .error (.malformed .noValue 14) := fun _ => rfl
  have hdirect : hostsByText "https://a:9200" = .ok ["https://a:9200"] := by
    rw [hostsByText, ConnectionSettings.hostsFrom_plain (by decide) (by decide) (by decide)
      (by decide)]
    rfl
  have hvariable : hostsByVariable "https://a:9200" =
      .error (.unreadableSetting "connection" .environment) := by
    rw [hostsByVariable_eq (by decide), hread]
    rfl
  refine ⟨by decide, hdirect, hvariable, fun hsame => ?_⟩
  cases hvariable.symm.trans (hsame _ hdirect)

end RecordSearch
