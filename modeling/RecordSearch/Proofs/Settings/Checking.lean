import RecordSearch.Proofs.Checked
import RecordSearch.Proofs.Json.Keys
import RecordSearch.Proofs.Traversal
import RecordSearch.Settings.Layers
import Mathlib.Data.List.Perm.Basic

namespace RecordSearch

/-!
# Settings that follow from a tree

Settings are checked field by field. Which ones come out depends on nothing but the tree of what is
given, and each of them on its own leaf.

* `Takes`: a field has the value of its leaf, or the default value where there is none;
* `Settings.FollowFrom`: all fields have the values that a tree gives;
* `Settings.SameBy`: settings that are the same but for the order of keys;
* `Settings.followFrom_of_check`: settings that pass the check follow from the tree;
* `Settings.exists_check`: where settings follow from a tree, the check passes;
* `Settings.FollowFrom.sameBy`: settings that follow from one tree are the same.
-/

/-- **A field takes a value**: that of its leaf, as the check gives it, or the default value where
    there is none. -/
def Takes {α : Type} (nodes : Nodes) (path : List String) (default : α)
    (check : Value → Checked α) (a : α) : Prop :=
  (nodes path = none ∧ a = default) ∨ ∃ v, nodes path = some (.leaf v) ∧ check v = .valid a

/-- **The hosts** come from a leaf as a whole, or are the keys where the tree branches. -/
def TakesHosts [Platform] (nodes : Nodes) (hosts : List String) : Prop :=
  (nodes ["connection", "hosts"] = none ∧ hosts = ConnectionSettings.defaultHosts)
    ∨ (∃ v, nodes ["connection", "hosts"] = some (.leaf v)
      ∧ ConnectionSettings.checkHosts (some v) = .ok (.valid hosts))
    ∨ (nodes ["connection", "hosts"] = some .branch ∧ hosts.Nodup
      ∧ ∀ host, host ∈ hosts ↔ nodes ["connection", "hosts", host] ≠ none)

/-- **Settings that follow from a tree**: there is nothing beside the sections, and each field has
    the value that the tree gives. The extra arguments are the whole tree below them. -/
structure Settings.FollowFrom [Platform] (nodes : Nodes) (settings : Settings) : Prop where
  named : ∀ key, nodes [key] ≠ none → ∃ part ∈ sections, part.name = key
  branches : ∀ part ∈ sections, ∀ v, nodes [part.name] ≠ some (.leaf v)
  hosts : TakesHosts nodes settings.connection.hosts
  username : Takes nodes ["connection", "username"] none (Checked.optional Checked.text)
    settings.connection.username
  password : Takes nodes ["connection", "password"] none (Checked.optional Checked.text)
    settings.connection.password
  apiKey : Takes nodes ["connection", "api_key"] none (Checked.optional Checked.text)
    settings.connection.apiKey
  verifyCerts : Takes nodes ["connection", "verify_certs"] true Checked.truthValue
    settings.connection.verifyCerts
  timeout : Takes nodes ["connection", "timeout"] ConnectionSettings.defaultTimeout
    Checked.positiveNumber settings.connection.timeout
  extraBranches : ∀ v, nodes ["connection", "extra"] ≠ some (.leaf v)
  extra : ∀ key path, (Value.mapping settings.connection.extra).nodeAt? (key :: path) =
    nodes ("connection" :: "extra" :: key :: path)
  logLevel : Takes nodes ["observability", "log_level"] ObservabilitySettings.default.logLevel
    Checked.text settings.observability.logLevel
  logFormat : Takes nodes ["observability", "log_format"] ObservabilitySettings.default.logFormat
    Checked.text settings.observability.logFormat

/-- **Settings that are the same** but for the order of the keys in the extra arguments, and of the
    hosts where these are keys themselves. -/
structure Settings.SameBy (nodes : Nodes) (settings other : Settings) : Prop where
  rest : other = { settings with
    connection := { settings.connection with
      hosts := other.connection.hosts, extra := other.connection.extra } }
  hosts : other.connection.hosts.Perm settings.connection.hosts
  hostList : nodes ["connection", "hosts"] ≠ some .branch →
    other.connection.hosts = settings.connection.hosts
  extra : (Value.mapping other.connection.extra).nodeAt? =
    (Value.mapping settings.connection.extra).nodeAt?

/-! ### Single fields -/

/-- The value whose node is a leaf. -/
theorem Value.eq_of_node_eq_leaf {v w : Value} (h : v.node = .leaf w) : v = w := by
  cases v <;> cases h <;> rfl

/-- No mapping is a single value. -/
theorem check_mapping_ne_valid (d : Document) :
    (∀ s, Checked.text (.mapping d) ≠ .valid s)
      ∧ (∀ s, Checked.optional Checked.text (.mapping d) ≠ .valid s)
      ∧ (∀ b, Checked.truthValue (.mapping d) ≠ .valid b)
      ∧ ∀ x, Checked.positiveNumber (.mapping d) ≠ .valid x :=
  ⟨nofun, nofun, nofun, nofun⟩

/-- A field that is checked takes a value. -/
theorem field_eq_valid_iff {α : Type} {nodes : Nodes} {path : List String} {name : String}
    {given : Option Value} {default a : α} {check : Value → Checked α}
    (hmapping : ∀ (d : Document) a, check (.mapping d) ≠ .valid a)
    (hgiven : given.map Value.node = nodes path) :
    Checked.field name given (.valid default) check = .valid a ↔
      Takes nodes path default check a := by
  rw [Checked.field, Checked.inside_eq_valid_iff, Takes, ← hgiven]
  cases given with
  | none => simp [eq_comm]
  | some v =>
    constructor
    · intro hcheck
      -- A mapping passes no check of a single value, so what is given is a leaf.
      refine .inr ⟨v, ?_, hcheck⟩
      rcases v.mapping_or_leaf with ⟨d, rfl⟩ | ⟨hleaf, -⟩
      · exact absurd hcheck (hmapping d a)
      · exact congrArg some hleaf
    · rintro (⟨hnone, -⟩ | ⟨w, hw, hcheck⟩)
      · cases hnone
      · rw [← Value.eq_of_node_eq_leaf (Option.some.inj hw)] at hcheck
        exact hcheck

/-- What stands for the fields of a section: the section, or no fields if it is not there. -/
def IsSection (state : Document) (name : String) (fields : Document) : Prop :=
  (state.get? name = none ∧ fields = []) ∨ state.get? name = some (.mapping fields)

/-- The tree below a section is that of its fields. -/
theorem IsSection.nodeAt? {state fields : Document} {name : String}
    (h : IsSection state name fields) (key : String) (path : List String) :
    (Value.mapping state).nodeAt? (name :: key :: path) =
      (fields.get? key).bind fun v => v.nodeAt? path := by
  rw [Value.nodeAt?_mapping_cons]
  rcases h with ⟨hnone, rfl⟩ | hsome
  · rw [hnone]
    rfl
  · rw [hsome, Option.bind_some, Value.nodeAt?_mapping_cons]

/-- The node of a field. -/
theorem IsSection.map_node {state fields : Document} {name : String}
    (h : IsSection state name fields) (key : String) :
    (fields.get? key).map Value.node = (Value.mapping state).nodeAt? [name, key] := by
  rw [h.nodeAt?]
  cases fields.get? key with
  | none => rfl
  | some v => rfl

/-! ### Sections -/

/-- The fields of a connection that pass the check. -/
theorem connection_check_eq_ok_iff [Platform] {fields : Document} {c : ConnectionSettings} :
    ConnectionSettings.check fields = .ok (.valid c) ↔
      ConnectionSettings.checkHosts (fields.get? "hosts") = .ok (.valid c.hosts)
      ∧ Checked.field "username" (fields.get? "username") (.valid none)
          (Checked.optional Checked.text) = .valid c.username
      ∧ Checked.field "password" (fields.get? "password") (.valid none)
          (Checked.optional Checked.text) = .valid c.password
      ∧ Checked.field "api_key" (fields.get? "api_key") (.valid none)
          (Checked.optional Checked.text) = .valid c.apiKey
      ∧ Checked.field "verify_certs" (fields.get? "verify_certs") (.valid true)
          Checked.truthValue = .valid c.verifyCerts
      ∧ Checked.field "timeout" (fields.get? "timeout")
          (.valid ConnectionSettings.defaultTimeout) Checked.positiveNumber = .valid c.timeout
      ∧ Checked.field "extra" (fields.get? "extra") (.valid []) Checked.mapping
          = .valid c.extra := by
  rw [ConnectionSettings.check, bind_eq_ok_iff]
  constructor
  · rintro ⟨hosts, hhosts, hrest⟩
    have hrest := Except.ok.inj hrest
    -- The fields are checked side by side, so that all of them pass.
    simp only [Checked.seq_eq_valid_iff, Checked.map_eq_valid_iff] at hrest
    obtain ⟨_, extra, ⟨_, timeout, ⟨_, verifyCerts, ⟨_, apiKey, ⟨_, password, ⟨_, username,
      ⟨checked, rfl, rfl⟩, husername, rfl⟩, hpassword, rfl⟩, hapiKey, rfl⟩, hverifyCerts, rfl⟩,
      htimeout, rfl⟩, hextra, rfl⟩ := hrest
    exact ⟨hhosts, husername, hpassword, hapiKey, hverifyCerts, htimeout, hextra⟩
  · rintro ⟨hhosts, husername, hpassword, hapiKey, hverifyCerts, htimeout, hextra⟩
    refine ⟨.valid c.hosts, hhosts, ?_⟩
    dsimp only
    rw [husername, hpassword, hapiKey, hverifyCerts, htimeout, hextra]
    rfl

/-- A connection that passes the check has fields that do. -/
theorem checkConnection_eq_ok_iff [Platform] {state : Document} {c : ConnectionSettings} :
    Settings.checkConnection (state.get? "connection") = .ok (.valid c) ↔
      ∃ fields, IsSection state "connection" fields
        ∧ ConnectionSettings.check fields = .ok (.valid c) := by
  cases hget : state.get? "connection" with
  | none => simp [Settings.checkConnection, IsSection, hget]
  | some v =>
    cases v with
    | mapping fields =>
      simp only [Settings.checkConnection, IsSection, hget, bind_eq_ok_iff]
      constructor
      · rintro ⟨checked, hchecked, hinside⟩
        rw [Checked.inside_eq_valid_iff.1 (Except.ok.inj hinside)] at hchecked
        exact ⟨fields, .inr rfl, hchecked⟩
      · rintro ⟨_, ⟨⟨⟩, -⟩ | hsame, hchecked⟩
        cases hsame
        exact ⟨.valid c, hchecked, rfl⟩
    | _ =>
      simp [Settings.checkConnection, IsSection, hget, Checked.inside, Checked.fail]

/-- A log that passes the check has fields that do. -/
theorem checkObservability_eq_valid_iff {state : Document} {o : ObservabilitySettings} :
    Settings.checkObservability (state.get? "observability") = .valid o ↔
      ∃ fields, IsSection state "observability" fields
        ∧ Checked.field "log_level" (fields.get? "log_level")
            (.valid ObservabilitySettings.default.logLevel) Checked.text = .valid o.logLevel
        ∧ Checked.field "log_format" (fields.get? "log_format")
            (.valid ObservabilitySettings.default.logFormat) Checked.text = .valid o.logFormat := by
  have hfields : ∀ fields : Document, ObservabilitySettings.check fields = .valid o ↔
      Checked.field "log_level" (fields.get? "log_level")
          (.valid ObservabilitySettings.default.logLevel) Checked.text = .valid o.logLevel
        ∧ Checked.field "log_format" (fields.get? "log_format")
          (.valid ObservabilitySettings.default.logFormat) Checked.text = .valid o.logFormat := by
    intro fields
    rw [ObservabilitySettings.check, Checked.seq_eq_valid_iff]
    constructor
    · rintro ⟨_, logFormat, hmap, hformat, rfl⟩
      obtain ⟨logLevel, hlevel, rfl⟩ := Checked.map_eq_valid_iff.1 hmap
      exact ⟨hlevel, hformat⟩
    · rintro ⟨hlevel, hformat⟩
      exact ⟨_, _, Checked.map_eq_valid_iff.2 ⟨_, hlevel, rfl⟩, hformat, rfl⟩
  simp only [← hfields]
  -- A section that is not given has no fields, and anything but a mapping is refused.
  cases hget : state.get? "observability" with
  | none =>
    have hempty : Settings.checkObservability none = ObservabilitySettings.check [] := rfl
    simp [hempty, IsSection, hget]
  | some v =>
    cases v with
    | mapping fields =>
      simp [Settings.checkObservability, IsSection, hget, Checked.inside_eq_valid_iff]
    | _ =>
      simp [Settings.checkObservability, IsSection, hget, Checked.inside, Checked.fail]

/-- Nothing but sections passes the check. -/
theorem checkOthers_eq_valid_iff {state : Document} :
    Settings.checkOthers state = .valid () ↔
      ∀ e ∈ state, ∃ part ∈ sections, part.name = e.1 := by
  induction state with
  | nil => simp [Settings.checkOthers]
  | cons entry state ih =>
    obtain ⟨key, v⟩ := entry
    rw [Settings.checkOthers]
    -- Each entry either has the name of a section or is a fault of its own.
    by_cases hkey : (sections.any fun part => part.name == key) = true
    · rw [if_pos hkey, ih, List.forall_mem_cons]
      obtain ⟨part, hpart, hname⟩ := List.any_eq_true.1 hkey
      exact (and_iff_right ⟨part, hpart, beq_iff_eq.1 hname⟩).symm
    · rw [if_neg hkey]
      constructor
      · intro h
        obtain ⟨_, _, hfirst, -⟩ := Checked.seq_eq_valid_iff.1 h
        obtain ⟨_, hfail, -⟩ := Checked.map_eq_valid_iff.1 hfirst
        cases Checked.inside_eq_valid_iff.1 hfail
      · intro h
        obtain ⟨part, hpart, hname⟩ := h (key, v) List.mem_cons_self
        exact (hkey (List.any_eq_true.2 ⟨part, hpart, beq_iff_eq.2 hname⟩)).elim

/-- Settings that pass the check have sections that do. -/
theorem check_eq_ok_iff [Platform] {state : Document} {settings : Settings} :
    Settings.check state true = .ok settings ↔
      Settings.checkConnection (state.get? "connection") = .ok (.valid settings.connection)
      ∧ Settings.checkObservability (state.get? "observability") = .valid settings.observability
      ∧ Settings.checkOthers state = .valid () := by
  rw [Settings.check, bind_eq_ok_iff]
  constructor
  · rintro ⟨connection, hconnection, hrest⟩
    have hrest := Checked.toExcept_eq_ok_iff.1 hrest
    simp only [Checked.seq_eq_valid_iff, Checked.map_eq_valid_iff] at hrest
    obtain ⟨_, _, ⟨_, observability, ⟨c, rfl, rfl⟩, hobservability, rfl⟩, hothers, rfl⟩ := hrest
    exact ⟨hconnection, hobservability, hothers⟩
  · rintro ⟨hconnection, hobservability, hothers⟩
    refine ⟨_, hconnection, ?_⟩
    rw [hobservability, hothers]
    rfl

/-! ### Hosts and extra arguments -/

/-- Hosts that are given as a mapping are its keys. -/
theorem checkHosts_mapping [Platform] (d : Document) :
    ConnectionSettings.checkHosts (some (.mapping d)) = .ok (.valid d.keys) := by
  have hmembers : hostMembers (.mapping d) = .ok (.valid (d.keys.map Value.str)) := by
    rw [Document.keys, List.map_map]
    rfl
  rw [ConnectionSettings.checkHosts, hmembers]
  show Except.ok (Checked.inside _ (Checked.all Checked.text (d.keys.map Value.str))) = _
  rw [Checked.all_text_map_str]
  rfl

/-- The keys of a mapping are where its tree goes on. -/
theorem mem_keys_iff (d : Document) (key : String) :
    key ∈ d.keys ↔ (Value.mapping d).nodeAt? [key] ≠ none := by
  have hnode : (Value.mapping d).nodeAt? [key] = (d.get? key).map Value.node := by
    rw [Value.nodeAt?_mapping_cons]
    cases d.get? key <;> rfl
  rw [hnode, ← Option.isSome_iff_ne_none, Option.isSome_map, isSome_get?_iff]

section

variable {state fields : Document}

/-- Hosts that pass the check are those that the tree gives. -/
theorem takesHosts_of_checkHosts [Platform] (hfields : IsSection state "connection" fields)
    (hkeys : (Value.mapping state).HasDistinctKeys) {hosts : List String}
    (h : ConnectionSettings.checkHosts (fields.get? "hosts") = .ok (.valid hosts)) :
    TakesHosts (Value.mapping state).nodeAt? hosts := by
  have hnode := hfields.map_node "hosts"
  cases hget : fields.get? "hosts" with
  | none =>
    rw [hget] at h hnode
    cases h
    exact .inl ⟨hnode.symm, rfl⟩
  | some v =>
    rw [hget] at h hnode
    -- A mapping gives its keys as hosts, which are the nodes below it; anything else is one leaf.
    rcases v.mapping_or_leaf with ⟨d, rfl⟩ | ⟨hleaf, -⟩
    · rw [checkHosts_mapping] at h
      cases h
      have hbelow : ∀ path, (Value.mapping state).nodeAt? ("connection" :: "hosts" :: path) =
          (Value.mapping d).nodeAt? path := fun path => by
        rw [hfields.nodeAt?, hget, Option.bind_some]
      refine .inr (.inr ⟨hnode.symm, ?_, fun host => ?_⟩)
      · refine hkeys ["connection", "hosts"] d ?_
        rcases hfields with ⟨-, rfl⟩ | hsome
        · cases hget
        · show (state.get? "connection").bind _ = _
          rw [hsome]
          show (fields.get? "hosts").bind _ = _
          rw [hget]
          rfl
      · rw [mem_keys_iff, ← hbelow]
    · exact .inr (.inl ⟨v, hnode.symm.trans (congrArg some hleaf), h⟩)

/-- Hosts that the tree gives pass the check, in some order. -/
theorem exists_checkHosts [Platform] (hfields : IsSection state "connection" fields)
    {hosts : List String} (h : TakesHosts (Value.mapping state).nodeAt? hosts) :
    ∃ hosts', ConnectionSettings.checkHosts (fields.get? "hosts") = .ok (.valid hosts') := by
  have hnode := hfields.map_node "hosts"
  cases hget : fields.get? "hosts" with
  | none => exact ⟨_, rfl⟩
  | some v =>
    rw [hget] at hnode
    rcases h with ⟨hnone, -⟩ | ⟨w, hw, hcheck⟩ | ⟨hbranch, -⟩
    · rw [hnone] at hnode
      cases hnode
    · rw [hw] at hnode
      rw [Value.eq_of_node_eq_leaf (Option.some.inj hnode)]
      exact ⟨hosts, hcheck⟩
    · rw [hbranch] at hnode
      obtain ⟨d, rfl⟩ := (Value.node_eq_branch_iff v).1 (Option.some.inj hnode)
      exact ⟨d.keys, checkHosts_mapping d⟩

/-- Extra arguments that pass the check are a section of the fields. -/
theorem extra_eq_valid_iff {extra : Document} :
    Checked.field "extra" (fields.get? "extra") (.valid []) Checked.mapping = .valid extra ↔
      IsSection fields "extra" extra := by
  rw [Checked.field, Checked.inside_eq_valid_iff, IsSection]
  cases fields.get? "extra" with
  | none => simp [eq_comm]
  | some v => cases v <;> simp [Checked.mapping, Checked.fail]

end

/-! ### Settings -/

namespace Settings

/-- A section that is not a leaf has fields. -/
theorem exists_isSection {state : Document} {name : String}
    (h : ∀ v, (Value.mapping state).nodeAt? [name] ≠ some (.leaf v)) :
    ∃ fields, IsSection state name fields := by
  cases hget : state.get? name with
  | none => exact ⟨[], .inl ⟨hget, rfl⟩⟩
  | some v =>
    rcases v.mapping_or_leaf with ⟨fields, rfl⟩ | ⟨hleaf, -⟩
    · exact ⟨fields, .inr hget⟩
    · refine absurd ?_ (h v)
      rw [Value.nodeAt?_mapping_cons, hget]
      exact congrArg some hleaf

/-- What has fields is not a leaf. -/
theorem nodeAt?_ne_leaf {state fields : Document} {name : String}
    (h : IsSection state name fields) (v : Value) :
    (Value.mapping state).nodeAt? [name] ≠ some (.leaf v) := by
  rw [Value.nodeAt?_mapping_cons]
  rcases h with ⟨hnone, -⟩ | hsome
  · rw [hnone]
    exact nofun
  · rw [hsome]
    exact nofun

/-- **Settings that pass the check follow from the tree** of what is checked. -/
theorem followFrom_of_check [Platform] {state : Document}
    (hkeys : (Value.mapping state).HasDistinctKeys)
    {settings : Settings} (h : check state true = .ok settings) :
    settings.FollowFrom (Value.mapping state).nodeAt? := by
  obtain ⟨hconnection, hobservability, hothers⟩ := check_eq_ok_iff.1 h
  obtain ⟨fields, hfields, hcheck⟩ := checkConnection_eq_ok_iff.1 hconnection
  obtain ⟨logFields, hlog, hlevel, hformat⟩ := checkObservability_eq_valid_iff.1 hobservability
  obtain ⟨hhosts, husername, hpassword, hapiKey, hverifyCerts, htimeout, hextra⟩ :=
    connection_check_eq_ok_iff.1 hcheck
  have hextra := extra_eq_valid_iff.1 hextra
  have htext := fun d => (check_mapping_ne_valid d).1
  have hoptional := fun d => (check_mapping_ne_valid d).2.1
  have htruth := fun d => (check_mapping_ne_valid d).2.2.1
  have hnumber := fun d => (check_mapping_ne_valid d).2.2.2
  -- What lies below a section is what its fields say.
  have hbelow : ∀ path, path ≠ [] →
      (Value.mapping state).nodeAt? ("connection" :: path) =
        (Value.mapping fields).nodeAt? path := by
    intro path hpath
    obtain ⟨key, below, rfl⟩ := List.exists_cons_of_ne_nil hpath
    rw [hfields.nodeAt?, Value.nodeAt?_mapping_cons]
  exact {
    named := fun key hkey => by
      obtain ⟨e, he, rfl⟩ := List.mem_map.1 ((mem_keys_iff state key).2 hkey)
      exact checkOthers_eq_valid_iff.1 hothers e he
    branches := fun part hpart => by
      rcases List.mem_pair.1 hpart with rfl | rfl
      · exact nodeAt?_ne_leaf hfields
      · exact nodeAt?_ne_leaf hlog
    hosts := takesHosts_of_checkHosts hfields hkeys hhosts
    username := (field_eq_valid_iff hoptional (hfields.map_node _)).1 husername
    password := (field_eq_valid_iff hoptional (hfields.map_node _)).1 hpassword
    apiKey := (field_eq_valid_iff hoptional (hfields.map_node _)).1 hapiKey
    verifyCerts := (field_eq_valid_iff htruth (hfields.map_node _)).1 hverifyCerts
    timeout := (field_eq_valid_iff hnumber (hfields.map_node _)).1 htimeout
    extraBranches := fun v => by
      rw [hbelow _ (List.cons_ne_nil _ _)]
      exact nodeAt?_ne_leaf hextra v
    extra := fun key path => by
      rw [hbelow _ (List.cons_ne_nil _ _), hextra.nodeAt?, Value.nodeAt?_mapping_cons]
    logLevel := (field_eq_valid_iff htext (hlog.map_node _)).1 hlevel
    logFormat := (field_eq_valid_iff htext (hlog.map_node _)).1 hformat }

/-- **Where settings follow from a tree, the check passes.** -/
theorem exists_check [Platform] {state : Document} {settings : Settings}
    (h : settings.FollowFrom (Value.mapping state).nodeAt?) :
    ∃ settings', check state true = .ok settings' := by
  obtain ⟨fields, hfields⟩ : ∃ fields, IsSection state "connection" fields :=
    exists_isSection (h.branches connectionSection List.mem_cons_self)
  obtain ⟨logFields, hlog⟩ : ∃ fields, IsSection state "observability" fields :=
    exists_isSection (h.branches observabilitySection (List.mem_cons_of_mem _ List.mem_cons_self))
  obtain ⟨hosts, hhosts⟩ := exists_checkHosts hfields h.hosts
  have hbelow : (Value.mapping state).nodeAt? ["connection", "extra"] =
      (Value.mapping fields).nodeAt? ["extra"] := by
    rw [hfields.nodeAt?, Value.nodeAt?_mapping_cons]
  obtain ⟨extra, hextra⟩ : ∃ extra, IsSection fields "extra" extra :=
    exists_isSection fun v => by
      rw [← hbelow]
      exact h.extraBranches v
  have htext := fun d => (check_mapping_ne_valid d).1
  have hoptional := fun d => (check_mapping_ne_valid d).2.1
  have htruth := fun d => (check_mapping_ne_valid d).2.2.1
  have hnumber := fun d => (check_mapping_ne_valid d).2.2.2
  -- The hosts and the extra arguments are only known by their nodes, so that others may be checked.
  refine ⟨⟨{ settings.connection with hosts := hosts, extra := extra },
    settings.observability⟩, check_eq_ok_iff.2 ⟨?_, ?_, ?_⟩⟩
  · refine checkConnection_eq_ok_iff.2 ⟨fields, hfields, connection_check_eq_ok_iff.2 ?_⟩
    exact ⟨hhosts, (field_eq_valid_iff hoptional (hfields.map_node _)).2 h.username,
      (field_eq_valid_iff hoptional (hfields.map_node _)).2 h.password,
      (field_eq_valid_iff hoptional (hfields.map_node _)).2 h.apiKey,
      (field_eq_valid_iff htruth (hfields.map_node _)).2 h.verifyCerts,
      (field_eq_valid_iff hnumber (hfields.map_node _)).2 h.timeout,
      extra_eq_valid_iff.2 hextra⟩
  · exact checkObservability_eq_valid_iff.2 ⟨logFields, hlog,
      (field_eq_valid_iff htext (hlog.map_node _)).2 h.logLevel,
      (field_eq_valid_iff htext (hlog.map_node _)).2 h.logFormat⟩
  · refine checkOthers_eq_valid_iff.2 fun e he => h.named e.1 ?_
    exact (mem_keys_iff state e.1).1 (List.mem_map_of_mem he)

end Settings

/-- What a field takes is determined by the tree. -/
theorem Takes.unique {α : Type} {nodes : Nodes} {path : List String} {default a b : α}
    {check : Value → Checked α} (ha : Takes nodes path default check a)
    (hb : Takes nodes path default check b) : a = b := by
  rcases ha with ⟨hnone, rfl⟩ | ⟨v, hv, hcheck⟩
  · rcases hb with ⟨-, rfl⟩ | ⟨w, hw, -⟩
    · rfl
    · rw [hnone] at hw
      cases hw
  · rcases hb with ⟨hnone, -⟩ | ⟨w, hw, hcheck'⟩
    · rw [hnone] at hv
      cases hv
    · rw [hv] at hw
      cases hw
      exact Checked.valid.inj (hcheck.symm.trans hcheck')

/-- Hosts that do not come from keys are determined by the tree, and others up to their order. -/
theorem TakesHosts.unique [Platform] {nodes : Nodes} {hosts others : List String}
    (h : TakesHosts nodes hosts) (hothers : TakesHosts nodes others) :
    others.Perm hosts ∧ (nodes ["connection", "hosts"] ≠ some .branch → others = hosts) := by
  rcases h with ⟨hnode, rfl⟩ | ⟨v, hnode, hcheck⟩ | ⟨hnode, hnodup, hmem⟩ <;>
    rcases hothers with ⟨hother, rfl⟩ | ⟨w, hother, hcheck'⟩ | ⟨hother, hnodup', hmem'⟩ <;>
    rw [hnode] at hother
  -- The node at the path tells which of the three ways both take; the mixed cases contradict it.
  case inl.inl => exact ⟨.rfl, fun _ => rfl⟩
  case inr.inl.inr.inl =>
    cases hother
    rw [hcheck] at hcheck'
    cases hcheck'
    exact ⟨.rfl, fun _ => rfl⟩
  case inr.inr.inr.inr =>
    refine ⟨(List.perm_ext_iff_of_nodup hnodup' hnodup).2 fun host => ?_,
      fun hne => absurd hnode hne⟩
    rw [hmem, hmem']
  all_goals cases hother

/-- **Settings that follow from one tree are the same.** -/
theorem Settings.FollowFrom.sameBy [Platform] {nodes : Nodes} {settings other : Settings}
    (h : settings.FollowFrom nodes) (hother : other.FollowFrom nodes) :
    settings.SameBy nodes other := by
  have hhosts := h.hosts.unique hother.hosts
  have hextra : (Value.mapping other.connection.extra).nodeAt? =
      (Value.mapping settings.connection.extra).nodeAt? := by
    funext path
    cases path with
    | nil => rfl
    | cons key path => rw [h.extra, hother.extra]
  -- All other settings are single values, each decided by its node.
  refine ⟨?_, hhosts.1, hhosts.2, hextra⟩
  obtain ⟨⟨hosts, username, password, apiKey, verifyCerts, timeout, extra⟩, ⟨level, format⟩⟩ :=
    settings
  obtain ⟨⟨hosts', username', password', apiKey', verifyCerts', timeout', extra'⟩,
    ⟨level', format'⟩⟩ := other
  obtain rfl : username = username' := h.username.unique hother.username
  obtain rfl : password = password' := h.password.unique hother.password
  obtain rfl : apiKey = apiKey' := h.apiKey.unique hother.apiKey
  obtain rfl : verifyCerts = verifyCerts' := h.verifyCerts.unique hother.verifyCerts
  obtain rfl : timeout = timeout' := h.timeout.unique hother.timeout
  obtain rfl : level = level' := h.logLevel.unique hother.logLevel
  obtain rfl : format = format' := h.logFormat.unique hother.logFormat
  rfl

end RecordSearch
