import RecordSearch.Engine
import RecordSearch.Proofs.Settings.Checking
import RecordSearch.Proofs.Value.Keyed

namespace RecordSearch

/-!
# What reaches a client

A client is made with arguments for the settings of the connection, in which the extra arguments are
set afterwards. An extra argument takes the whole place of another one with its name. Headers among
the extra arguments so take the place of the header with the key, whatever they hold.

* `Value.member?`, `Document.header?`: the headers among arguments;
* `ConnectionSettings.IsChecked`: settings that pass the check;
* `ConnectionSettings.get?_clientArguments`: the arguments of a client, name by name;
* `ConnectionSettings.Forwards`: the login and the extra arguments reach the client;
* `ConnectionSettings.KeyReaches`, `ConnectionSettings.HidesKey`: the key reaches the client, or
  there are headers that hide it;
* `credentials_reach_client`: what reaches the client, for all settings.
-/

/-! ### Headers -/

/-- The member of a mapping at a text. -/
def Value.member? (v : Value) (name : String) : Option Value :=
  match v with
  | .mapping entries => Document.get? entries name
  | .brokenMapping entries => entries.lookup (Text.codes name)
  | _ => none

/-- The header with a name, among the arguments of a client. -/
def Document.header? (arguments : Document) (name : String) : Option Value :=
  (arguments.get? "headers").bind fun headers => headers.member? name

/-! ### Texts that are filled -/

/-- A text that is given and not empty. -/
def IsFilled (given : Option String) (text : String) : Prop := given = some text ∧ text ≠ ""

theorem filled?_eq_some_iff {given : Option String} {text : String} :
    ConnectionSettings.filled? given = some text ↔ IsFilled given text := by
  rw [ConnectionSettings.filled?, Option.filter_eq_some_iff, IsFilled]
  simp

namespace ConnectionSettings

variable {c : ConnectionSettings}

/-! ### The arguments of a client -/

/-- **Settings that pass the check**, from fields no two of which have the same name. -/
def IsChecked [Platform] (c : ConnectionSettings) : Prop :=
  ∃ fields, (Value.mapping fields).HasDistinctKeys ∧ check fields = .ok (.valid c)

/-- The names of the extra arguments are distinct. -/
theorem IsChecked.nodup_extra [Platform] (h : c.IsChecked) : c.extra.keys.Nodup := by
  obtain ⟨fields, hkeys, hcheck⟩ := h
  obtain ⟨-, -, -, -, -, -, hextra⟩ := connection_check_eq_ok_iff.1 hcheck
  rcases extra_eq_valid_iff.1 hextra with ⟨-, hempty⟩ | hgiven
  · rw [hempty]
    exact List.nodup_nil
  · have hextraKeys := ((Value.hasDistinctKeys_mapping_iff fields).1 hkeys).2 _ _ hgiven
    exact ((Value.hasDistinctKeys_mapping_iff c.extra).1 hextraKeys).1

/-- The arguments before the extra ones are set. -/
def ownArguments (c : ConnectionSettings) : Document :=
  [("hosts", .list (c.hosts.map .str)), ("verify_certs", .bool c.verifyCerts),
      ("ssl_show_warn", .bool false), ("timeout", .float c.timeout)]
    ++ c.login ++ c.authorization

/-- An argument of a client is the extra one, or else that for the settings. -/
theorem get?_clientArguments [Platform] (h : c.IsChecked) (name : String) :
    c.clientArguments.get? name = (c.extra.get? name).or (c.ownArguments.get? name) :=
  Document.get?_update c.ownArguments h.nodup_extra name

/-- The settings give a login if both the name and the password are filled. -/
theorem get?_ownArguments_login_iff {login : Value} :
    c.ownArguments.get? "http_auth" = some login ↔
      ∃ username password, IsFilled c.username username ∧ IsFilled c.password password
        ∧ login = .tuple [.str username, .str password] := by
  have hlogin : c.ownArguments.get? "http_auth" = c.login.get? "http_auth" := by
    rw [ownArguments, Document.get?_append, Document.get?_append, authorization]
    split <;> exact Option.or_none
  rw [hlogin, ConnectionSettings.login]
  simp only [← filled?_eq_some_iff]
  cases filled? c.username with
  | none => simp [Document.get?_nil]
  | some username =>
    cases filled? c.password with
    | none => simp [Document.get?_nil]
    | some password => simp [Document.get?_cons, eq_comm]

/-- The settings give headers if the key is filled. -/
theorem get?_ownArguments_headers_iff {headers : Value} :
    c.ownArguments.get? "headers" = some headers ↔
      ∃ key, IsFilled c.apiKey key
        ∧ headers = .mapping [("Authorization", .str ("ApiKey " ++ key))] := by
  have hheaders : c.ownArguments.get? "headers" = c.authorization.get? "headers" := by
    rw [ownArguments, Document.get?_append, Document.get?_append, ConnectionSettings.login]
    split <;> rfl
  rw [hheaders, authorization]
  simp only [← filled?_eq_some_iff]
  cases filled? c.apiKey with
  | none => simp [Document.get?_nil]
  | some key => simp [Document.get?_cons, eq_comm]

/-! ### What reaches the client -/

/-- **The login and the extra arguments reach the client**: all extra arguments, and their headers
    one by one. The name and the password do so where both are filled and there is no extra login,
    which is the only one otherwise. Without a key there are the extra headers only. -/
structure Forwards (c : ConnectionSettings) (arguments : Document) : Prop where
  extra : ∀ name v, c.extra.get? name = some v → arguments.get? name = some v
  headers : ∀ name v, c.extra.header? name = some v → arguments.header? name = some v
  login : ∀ username password, IsFilled c.username username → IsFilled c.password password →
    c.extra.get? "http_auth" = none →
      arguments.get? "http_auth" = some (.tuple [.str username, .str password])
  extraLogin : ¬((∃ username, IsFilled c.username username)
      ∧ (∃ password, IsFilled c.password password) ∧ c.extra.get? "http_auth" = none) →
    arguments.get? "http_auth" = c.extra.get? "http_auth"
  extraHeaders : (∀ key, ¬IsFilled c.apiKey key) →
    arguments.get? "headers" = c.extra.get? "headers"

/-- **The key reaches the client**, if it is filled and no extra header is called
    `Authorization`. -/
def KeyReaches (c : ConnectionSettings) (arguments : Document) : Prop :=
  ∀ key, IsFilled c.apiKey key → c.extra.header? "Authorization" = none →
    arguments.header? "Authorization" = some (.str ("ApiKey " ++ key))

/-- **The key is hidden**: it is filled, and there are extra headers, none of which is called
    `Authorization`. -/
def HidesKey (c : ConnectionSettings) : Prop :=
  (∃ key, IsFilled c.apiKey key) ∧ c.extra.get? "headers" ≠ none
    ∧ c.extra.header? "Authorization" = none

/-- Where there is no extra argument, the one for the settings counts, if any. -/
theorem get?_clientArguments_of_eq_none [Platform] (h : c.IsChecked) {name : String}
    (hnone : c.extra.get? name = none) :
    c.clientArguments.get? name = c.ownArguments.get? name := by
  rw [get?_clientArguments h, hnone, Option.none_or]

/-- An extra argument reaches the client. -/
theorem get?_clientArguments_of_eq_some [Platform] (h : c.IsChecked) {name : String} {v : Value}
    (hsome : c.extra.get? name = some v) : c.clientArguments.get? name = some v := by
  rw [get?_clientArguments h, hsome, Option.some_or]

/-- The arguments forward the login and the extra arguments. -/
theorem forwards_clientArguments [Platform] (h : c.IsChecked) : c.Forwards c.clientArguments where
  extra _ _ hsome := get?_clientArguments_of_eq_some h hsome
  headers name v hheader := by
    obtain ⟨headers, hheaders, hmember⟩ := Option.bind_eq_some_iff.1 hheader
    rw [Document.header?, get?_clientArguments_of_eq_some h hheaders]
    exact hmember
  login username password husername hpassword hnone := by
    rw [get?_clientArguments_of_eq_none h hnone]
    exact get?_ownArguments_login_iff.2 ⟨username, password, husername, hpassword, rfl⟩
  extraLogin hnot := by
    -- An extra login replaces the one of the settings. Without one, either text is not filled.
    cases hextra : c.extra.get? "http_auth" with
    | some login => exact get?_clientArguments_of_eq_some h hextra
    | none =>
      rw [get?_clientArguments_of_eq_none h hextra, Option.eq_none_iff_forall_ne_some]
      intro login hlogin
      obtain ⟨username, password, husername, hpassword, -⟩ := get?_ownArguments_login_iff.1 hlogin
      exact hnot ⟨⟨username, husername⟩, ⟨password, hpassword⟩, hextra⟩
  extraHeaders hnokey := by
    have hnone : c.ownArguments.get? "headers" = none := by
      refine Option.eq_none_iff_forall_ne_some.2 fun headers hheaders => ?_
      obtain ⟨key, hkey, -⟩ := get?_ownArguments_headers_iff.1 hheaders
      exact hnokey key hkey
    rw [get?_clientArguments h, hnone, Option.or_none]

/-- Where the key is hidden, the client has no header `Authorization`. -/
theorem header?_of_hidesKey [Platform] (h : c.IsChecked) (hhides : c.HidesKey) :
    c.clientArguments.header? "Authorization" = none := by
  obtain ⟨-, hsome, hnone⟩ := hhides
  -- The extra headers are the only ones, since they replace those with the key.
  obtain ⟨headers, hheaders⟩ := Option.ne_none_iff_exists'.1 hsome
  have hsame : c.clientArguments.header? "Authorization" = c.extra.header? "Authorization" := by
    rw [Document.header?, Document.header?, hheaders, get?_clientArguments_of_eq_some h hheaders]
  rw [hsame, hnone]

/-- A key reaches the client unless it is hidden. -/
theorem keyReaches_iff [Platform] (h : c.IsChecked) :
    c.KeyReaches c.clientArguments ↔ ¬c.HidesKey := by
  constructor
  · intro hreaches hhides
    obtain ⟨key, hkey⟩ := hhides.1
    cases (header?_of_hidesKey h hhides).symm.trans (hreaches key hkey hhides.2.2)
  · intro hshown key hkey hnone
    -- Nothing hides the key, and so there are no extra headers at all.
    have hextra : c.extra.get? "headers" = none := by
      by_contra hsome
      exact hshown ⟨⟨key, hkey⟩, hsome, hnone⟩
    rw [Document.header?, get?_clientArguments_of_eq_none h hextra,
      get?_ownArguments_headers_iff.2 ⟨key, hkey, rfl⟩]
    rfl

end ConnectionSettings

/-- **What reaches a client**, made directly or with an engine. The login and the extra arguments
    always do. The key does so unless extra headers hide it, and then the client has no key. -/
theorem credentials_reach_client [Platform] (settings : Settings)
    (h : settings.connection.IsChecked) :
    ∀ arguments ∈ [settings.connection.clientArguments,
        (Engine.ofSettings settings).clientArguments],
      settings.connection.Forwards arguments
        ∧ (settings.connection.KeyReaches arguments ↔ ¬settings.connection.HidesKey)
        ∧ (settings.connection.HidesKey → arguments.header? "Authorization" = none) := by
  intro arguments hmem
  have hsame : arguments = settings.connection.clientArguments := by
    rcases List.mem_pair.1 hmem with rfl | rfl <;> rfl
  rw [hsame]
  exact ⟨ConnectionSettings.forwards_clientArguments h, ConnectionSettings.keyReaches_iff h,
    ConnectionSettings.header?_of_hidesKey h⟩

/-- Settings with a name, a password, a key and extra arguments. -/
def filledSettings (extra : Document) : Settings :=
  ⟨⟨ConnectionSettings.defaultHosts, some "ada", some "pw", some "k", true,
    ConnectionSettings.defaultTimeout, extra⟩, .default⟩

/-- They pass the check if the extra arguments have distinct names. -/
theorem isChecked_filledSettings [Platform] {extra : Document}
    (h : (Value.mapping extra).HasDistinctKeys) :
    (filledSettings extra).connection.IsChecked := by
  have hnames : ["username", "password", "api_key", "extra"].Nodup := by decide
  refine ⟨[("username", .str "ada"), ("password", .str "pw"), ("api_key", .str "k"),
    ("extra", .mapping extra)], hasDistinctKeys_of_forall_mem hnames ?_, rfl⟩
  simp only [List.forall_mem_cons]
  exact ⟨Value.hasDistinctKeys_of_leaf rfl, Value.hasDistinctKeys_of_leaf rfl,
    Value.hasDistinctKeys_of_leaf rfl, h, nofun⟩

/-- Extra arguments without headers, one of which is a mapping. -/
def poolArguments : Document :=
  [("max_retries", .int 3), ("pool", .mapping [("size", .int 2)])]

/-- Extra headers that tell requests apart. -/
def requestHeaders : Document := [("headers", .mapping [("X-Opaque-Id", .str "7")])]

theorem hasDistinctKeys_extraArguments : (Value.mapping poolArguments).HasDistinctKeys
    ∧ (Value.mapping requestHeaders).HasDistinctKeys := by
  have hsize : (Value.mapping [("size", .int 2)]).HasDistinctKeys :=
    hasDistinctKeys_of_forall_mem (by decide)
      (List.forall_mem_singleton.2 (Value.hasDistinctKeys_of_leaf rfl))
  have hid : (Value.mapping [("X-Opaque-Id", .str "7")]).HasDistinctKeys :=
    hasDistinctKeys_of_forall_mem (by decide)
      (List.forall_mem_singleton.2 (Value.hasDistinctKeys_of_leaf rfl))
  constructor
  · refine hasDistinctKeys_of_forall_mem (by decide) (List.forall_mem_cons.2 ⟨?_, ?_⟩)
    · exact Value.hasDistinctKeys_of_leaf rfl
    · exact List.forall_mem_singleton.2 hsize
  · exact hasDistinctKeys_of_forall_mem (by decide) (List.forall_mem_singleton.2 hid)

attribute [local instance] Platform.plain

/-- The login, the key and a mapping among the extra arguments reach the client of an engine. With
    extra headers the login does so, and the key does not. -/
theorem filledSettings_reach_client :
    (filledSettings poolArguments).connection.IsChecked
      ∧ (Engine.ofSettings (filledSettings poolArguments)).clientArguments.get? "http_auth"
        = some (.tuple [.str "ada", .str "pw"])
      ∧ (Engine.ofSettings (filledSettings poolArguments)).clientArguments.get? "pool"
        = some (.mapping [("size", .int 2)])
      ∧ (Engine.ofSettings (filledSettings poolArguments)).clientArguments.header? "Authorization"
        = some (.str "ApiKey k")
      ∧ (filledSettings requestHeaders).connection.IsChecked
      ∧ (filledSettings requestHeaders).connection.clientArguments.header? "X-Opaque-Id"
        = some (.str "7")
      ∧ (filledSettings requestHeaders).connection.clientArguments.header? "Authorization"
        = none := by
  have hpool := isChecked_filledSettings hasDistinctKeys_extraArguments.1
  have hrequest := isChecked_filledSettings hasDistinctKeys_extraArguments.2
  obtain ⟨hforwards, hkey, -⟩ := credentials_reach_client (filledSettings poolArguments) hpool _
    (List.mem_cons_of_mem _ List.mem_cons_self)
  obtain ⟨hforwards', -, hhidden⟩ := credentials_reach_client (filledSettings requestHeaders)
    hrequest _ List.mem_cons_self
  -- The key reaches the client unless further headers are given, which hide it.
  have hada : IsFilled (some "ada") "ada" := ⟨rfl, by decide⟩
  have hpw : IsFilled (some "pw") "pw" := ⟨rfl, by decide⟩
  have hk : IsFilled (some "k") "k" := ⟨rfl, by decide⟩
  refine ⟨hpool, hforwards.login _ _ hada hpw rfl, hforwards.extra _ _ rfl, ?_, hrequest,
    hforwards'.headers _ _ rfl, hhidden ⟨⟨"k", hk⟩, nofun, rfl⟩⟩
  exact hkey.2 (fun hhides => hhides.2.1 rfl) "k" hk rfl

/-- A header that tells requests apart hides the key. -/
theorem requestHeaders_hide_key :
    (filledSettings requestHeaders).connection.IsChecked
      ∧ IsFilled (filledSettings requestHeaders).connection.apiKey "k"
      ∧ requestHeaders.header? "Authorization" = none
      ∧ ¬(filledSettings requestHeaders).connection.KeyReaches
        (filledSettings requestHeaders).connection.clientArguments := by
  have hk : IsFilled (some "k") "k" := ⟨rfl, by decide⟩
  refine ⟨isChecked_filledSettings hasDistinctKeys_extraArguments.2, hk, rfl, fun hreaches => ?_⟩
  cases hreaches "k" hk rfl

end RecordSearch
