import Mathlib.Data.List.Nodup
import RecordSearch.Proofs.Search.Callback
import RecordSearch.Proofs.Search.StaleHits
import RecordSearch.Proofs.Write.Batch
import RecordSearch.Proofs.Write.BulkFormat

namespace RecordSearch

/-!
# Records that are written and found again

A record is written under the text of its identity, and found again by a text. If the identities
of a batch are all integers or all texts, then different ones have different texts, so that each
hit leads back to the very record that was written under its id. An integer with too many digits
has no text: a batch with one is not written at all.

* `IsBatch`: records of one type whose identities can be told apart by their texts;
* `AreIds`: the ids of records, which are the texts of their identities;
* `headerAddresses`: the addresses that the header lines of a bulk request name;
* `Resolution.Returns`: an answer of a record store with given records, in any order.

`written_records_are_loaded` follows the identities from the header lines of an update to the
records that a search loads.
-/

variable {σ : Type}

/-! ### The texts of identities -/

/-- **A batch** of records of one type, whose identities are pairwise distinct, and all integers or
    all texts. -/
structure IsBatch (type : RecordType) (records : List Record) : Prop where
  types : ∀ record ∈ records, record.type = type
  keys : (∀ record ∈ records, ∃ n, record.key = .int n)
    ∨ ∀ record ∈ records, ∃ s, record.key = .str s
  distinct : (records.map Record.key).Nodup

/-- **The ids of records**: the texts of their identities, one for each record. -/
def AreIds (ids : List String) (records : List Record) : Prop :=
  List.Forall₂ (fun record id => record.id = .ok id) records ids

/-- The text of the identity of a record, if that has one. -/
def Record.shownId (record : Record) : String := Failure.shownText record.key

/-- The digits of a number say which one it is. -/
theorem natText_injective {m n : Nat} (h : m.repr = n.repr) : m = n := by
  have hdigits : Nat.toDigits 10 m = Nat.toDigits 10 n := by
    rw [← Nat.toList_repr, h, Nat.toList_repr]
  calc
    m = Nat.ofDigitChars 10 (Nat.toDigits 10 m) 0 := Nat.ofDigitChars_ten_toDigits.symm
    _ = Nat.ofDigitChars 10 (Nat.toDigits 10 n) 0 := by rw [hdigits]
    _ = n := Nat.ofDigitChars_ten_toDigits

/-- The text of a number does not start with a sign. -/
theorem natText_ne_signed (m : Nat) (digits : String) : m.repr ≠ "-" ++ digits := by
  intro h
  have hmem : '-' ∈ Nat.toDigits 10 m := by
    rw [← Nat.toList_repr, h, String.toList_append]
    exact List.mem_append_left _ (List.mem_singleton_self _)
  exact absurd (Nat.isDigit_of_mem_toDigits (by decide) (by decide) hmem) (by decide)

/-- The text of an integer says which one it is. -/
theorem intText_injective {m n : Int} (h : toString m = toString n) : m = n := by
  cases m with
  | ofNat m =>
    cases n with
    | ofNat n => exact congrArg Int.ofNat (natText_injective h)
    | negSucc n => exact absurd h (natText_ne_signed m _)
  | negSucc m =>
    cases n with
    | ofNat n => exact absurd h.symm (natText_ne_signed n _)
    | negSucc n =>
      have hdigits : (m + 1).repr = (n + 1).repr := (String.append_right_inj "-").1 h
      exact congrArg Int.negSucc (Nat.succ.inj (natText_injective hdigits))

/-- An integer is written if and only if it has no more digits than the limit. -/
theorem isWritten_iff (n : Int) :
    Value.isWritten n = true ↔ n.natAbs < 10 ^ Decimal.digitLimit := by
  rw [Value.isWritten, decide_eq_true_iff]
  exact Nat.length_toDigits_le_iff (by decide) (by decide)

/-- An integer has a text if and only if it has no more digits than the limit. -/
theorem hasText_int_iff (n : Int) :
    HasText (.int n) ↔ n.natAbs < 10 ^ Decimal.digitLimit := by
  rw [← isWritten_iff, HasText, Failure.textOf_int, Value.text?_int]
  cases Value.isWritten n with
  | true => exact iff_of_true ⟨_, rfl⟩ rfl
  | false => exact iff_of_false nofun nofun

/-- An integer is shown by its digits. -/
theorem shownText_int (n : Int) : Failure.shownText (.int n) = toString n := by
  have hliteral : (Value.int n).literal = toString n := by rw [Value.literal]
  rw [Failure.shownText, Failure.textOf_int, Value.text?_int]
  cases Value.isWritten n with
  | true => rfl
  | false => exact hliteral

/-- A text is shown as it is. -/
theorem shownText_str (s : String) : Failure.shownText (.str s) = s := rfl

section

variable {ids : List String} {records : List Record}

/-- Records with ids have identities with texts. -/
theorem AreIds.hasText (h : AreIds ids records) {record : Record} (hmem : record ∈ records) :
    HasText record.key := by
  obtain ⟨id, -, hid⟩ := exists_of_mem_right h.flip hmem
  exact ⟨id, hid⟩

/-- The ids of records are the texts that their identities are shown by. -/
theorem AreIds.eq_shown (h : AreIds ids records) : ids = records.map Record.shownId := by
  induction h with
  | nil => rfl
  | cons hid _ ih => rw [List.map_cons, ← ih, Record.shownId, shownText_eq hid]

/-- Records whose identities have texts have ids. -/
theorem areIds_shown (h : ∀ record ∈ records, HasText record.key) :
    AreIds (records.map Record.shownId) records := by
  rw [AreIds, List.forall₂_map_right_iff, List.forall₂_same]
  exact fun record hmem => (h record hmem).textOf_eq

end

namespace IsBatch

variable {type : RecordType} {records : List Record} (h : IsBatch type records)

include h

/-- The records have ids if and only if none of their identities is an integer with too many
    digits. -/
theorem exists_areIds_iff : (∃ ids, AreIds ids records) ↔
    ∀ record ∈ records, ∀ n, record.key = .int n → n.natAbs < 10 ^ Decimal.digitLimit := by
  constructor
  · rintro ⟨ids, hids⟩ record hmem n hkey
    rw [← hasText_int_iff, ← hkey]
    exact hids.hasText hmem
  · intro hdigits
    refine ⟨_, areIds_shown fun record hmem => ?_⟩
    rcases h.keys with hints | hstrs
    · obtain ⟨n, hn⟩ := hints record hmem
      rw [hn, hasText_int_iff]
      exact hdigits record hmem n hn
    · obtain ⟨s, hs⟩ := hstrs record hmem
      rw [hs]
      exact ⟨_, rfl⟩

/-- Records whose identities have one text are the same. -/
theorem eq_of_shownId_eq {record other : Record} (hmem : record ∈ records)
    (hother : other ∈ records) (heq : record.shownId = other.shownId) : record = other := by
  rw [Record.shownId, Record.shownId] at heq
  have hkey : record.key = other.key := by
    rcases h.keys with hints | hstrs
    · obtain ⟨m, hm⟩ := hints record hmem
      obtain ⟨n, hn⟩ := hints other hother
      rw [hm, hn, shownText_int, shownText_int] at heq
      rw [hm, hn, intText_injective heq]
    · obtain ⟨s, hs⟩ := hstrs record hmem
      obtain ⟨t, ht⟩ := hstrs other hother
      rw [hs, ht, shownText_str, shownText_str] at heq
      rw [hs, ht, heq]
  exact List.inj_on_of_nodup_map h.distinct hmem hother hkey

/-- No two records have the same id. -/
theorem nodup_shownId : (records.map Record.shownId).Nodup :=
  (List.Nodup.of_map _ h.distinct).map_on fun _ hmem _ hother => h.eq_of_shownId_eq hmem hother

end IsBatch

/-! ### What an update writes -/

/-- The addresses that the header lines of a bulk request name. -/
def headerAddresses (lines : List Value) : List Address :=
  lines.filterMap fun line => (header? line).map Prod.snd

/-- The header lines of operations name their addresses, in order, and no other line does. -/
theorem headerAddresses_bulkLines (operations : List Operation) :
    headerAddresses (bulkLines operations) = operations.map Operation.address := by
  induction operations with
  | nil => rfl
  | cons operation operations ih =>
    have hfirst : headerAddresses operation.lines = [operation.address] := by
      cases operation <;> rfl
    rw [bulkLines, List.flatMap_cons, headerAddresses, List.filterMap_append, List.map_cons]
    exact congrArg₂ _ hfirst ih

/-- Each operation of a batch has the address of its record. -/
theorem addresses_of_operationsOf {records : List Record} {operations : List Operation}
    (h : operationsOf Record.upsert records = .ok operations) :
    List.Forall₂ (fun record operation => record.address? = some operation.address) records
      operations := by
  rw [operationsOf_eq] at h
  refine (forall₂_of_mapM_eq_ok h).imp fun record operation hoperation => ?_
  obtain ⟨address, fields, haddress, -, rfl⟩ := operationOf_upsert_eq_ok_iff.1 hoperation
  exact haddress

/-- The address of a record is made of the index of its type and its id. -/
theorem eq_of_address? {record : Record} {name : String} {address : Address}
    (hindex : record.type.index = .str name) (h : record.address? = some address) :
    record.id = .ok address.id ∧ address = ⟨name, address.id⟩ := by
  rw [Record.address?, hindex, Checked.text_str] at h
  cases hid : record.id with
  | error problem =>
    rw [hid] at h
    cases h
  | ok id =>
    rw [hid] at h
    cases h
    exact ⟨rfl, rfl⟩

/-- Addresses of records in one index are made of that and the ids of the records. -/
theorem exists_ids_of_addresses {name : String} {records : List Record} {addresses : List Address}
    (hindex : ∀ record ∈ records, record.type.index = .str name)
    (h : List.Forall₂ (fun record address => record.address? = some address) records addresses) :
    ∃ ids, AreIds ids records ∧ addresses = ids.map fun id => ⟨name, id⟩ := by
  induction h with
  | nil => exact ⟨[], .nil, rfl⟩
  | cons haddress _ ih =>
    obtain ⟨ids, hids, rfl⟩ := ih fun record hmem => hindex record (List.mem_cons_of_mem _ hmem)
    obtain ⟨hid, heq⟩ := eq_of_address? (hindex _ List.mem_cons_self) haddress
    exact ⟨_ :: ids, .cons hid hids, congrArg (· :: _) heq⟩

/-- **The header lines of an update** name the index of the type and the ids of the records. -/
theorem headerAddresses_of_update {type : RecordType} {records : List Record} {name : String}
    (h : IsBatch type records) (hindex : type.index = .str name)
    {surroundings : Surroundings σ} {state : σ} {lines : List Value}
    {answer : Except Failure Value}
    (hmem : (Query.bulk lines, answer) ∈ (update records).exchanges surroundings state) :
    ∃ ids, AreIds ids records ∧ headerAddresses lines = ids.map fun id => ⟨name, id⟩ := by
  obtain ⟨before, after, hexchanges⟩ := List.append_of_mem hmem
  cases records with
  | nil => cases hmem
  | cons first rest =>
    obtain ⟨_, operations, -, -, hoperations, rfl⟩ := exchanges_update hexchanges
    rw [headerAddresses_bulkLines]
    refine exists_ids_of_addresses (fun record hmem => h.types record hmem ▸ hindex) ?_
    rw [List.forall₂_map_right_iff]
    exact addresses_of_operationsOf hoperations

/-- An update of records that ends well has sent a bulk request. -/
theorem exists_bulk_of_update {first : Record} {rest : List Record} {exchanges : List Exchange}
    (h : (update (first :: rest)).HasTranscript exchanges (.ok ())) :
    ∃ lines answer, (Query.bulk lines, answer) ∈ exchanges := by
  rw [update] at h
  rcases Program.hasTranscript_bind h with ⟨error, -, hends⟩ | ⟨_, before, sent, -, hsent, rfl⟩
  · cases hends
  · cases sending_of_hasTranscript renders_upsert hsent with
    | sent hlines answer hends =>
      exact ⟨_, answer, List.mem_append_right before List.mem_cons_self⟩

/-! ### What a search loads -/

/-- **The answer of a record store with given records**, in any order: one after the other, or each
    under its identity. -/
def Resolution.Returns (answer : Resolution) (records : List Record) : Prop :=
  ∃ listed, List.Perm listed records
    ∧ (answer = .records listed
      ∨ answer = .entries (listed.map fun record => (record.key, .record record)))

/-- In either form the items of the answer are the records with their identities. -/
theorem exists_pairs_eq {answer : Resolution} {records : List Record}
    (h : answer.Returns records) :
    ∃ listed, List.Perm listed records
      ∧ answer.pairs = listed.map fun record => (record.key, Item.record record) := by
  obtain ⟨listed, hperm, rfl | rfl⟩ := h
  · exact ⟨listed, hperm, rfl⟩
  · exact ⟨listed, hperm, rfl⟩

/-- All identities in an answer with records that have ids have a text. -/
theorem hasText_of_returns {records : List Record} {ids : List String} (hids : AreIds ids records)
    {answer : Resolution} (hanswer : answer.Returns records) :
    ∀ e ∈ answer.pairs, HasText e.1 := by
  obtain ⟨listed, hperm, hpairs⟩ := exists_pairs_eq hanswer
  intro e he
  rw [hpairs] at he
  obtain ⟨record, hrecord, rfl⟩ := List.mem_map.1 he
  exact hids.hasText (hperm.mem_iff.1 hrecord)

/-- An answer with the records of a batch knows each of them by its id. -/
theorem knownAs_of_returns {type : RecordType} {records : List Record} (h : IsBatch type records)
    {answer : Resolution} (hanswer : answer.Returns records) {record : Record}
    (hmem : record ∈ records) {id : String} (hid : record.id = .ok id) :
    KnownAs answer (.str id) (.record record) := by
  obtain ⟨listed, hperm, hpairs⟩ := exists_pairs_eq hanswer
  obtain ⟨before, after, hlisted⟩ := List.append_of_mem (hperm.mem_iff.2 hmem)
  refine ⟨rfl, before.map fun record => (record.key, .record record), record.key,
    after.map fun record => (record.key, .record record), ?_, ⟨id, hid, rfl⟩, ?_⟩
  · rw [hpairs, hlisted, List.map_append, List.map_cons]
  · intro e he
    obtain ⟨other, hother, rfl⟩ := List.mem_map.1 he
    have hin : other ∈ records := by
      rw [← hperm.mem_iff, hlisted]
      exact List.mem_append_right before (List.mem_cons_of_mem _ hother)
    -- The record is listed once, so that what comes after it is another one.
    have hnodup : (before ++ record :: after).Nodup := by
      rw [← hlisted, hperm.nodup_iff]
      exact List.Nodup.of_map _ h.distinct
    have hne : other ≠ record := by
      rintro rfl
      exact (List.nodup_cons.1 (List.nodup_append.1 hnodup).2.1).1 hother
    rintro ⟨text, htext, hsame⟩
    have hshown : other.shownId = record.shownId := by
      rw [Record.shownId, Record.shownId, shownText_eq htext, shownText_eq hid]
      exact (Except.ok.inj hsame).symm
    exact hne (h.eq_of_shownId_eq hin hmem hshown)

/-- Items that are records are given by those. -/
theorem exists_records_of_forall₂ {holds : String → Record → Prop} {ids : List String}
    {items : List Item}
    (h : List.Forall₂ (fun id item => ∃ record, item = .record record ∧ holds id record) ids
      items) :
    ∃ records : List Record, items = records.map Item.record ∧ List.Forall₂ holds ids records := by
  induction h with
  | nil => exact ⟨[], rfl, .nil⟩
  | cons hitem _ ih =>
    obtain ⟨record, rfl, hrecord⟩ := hitem
    obtain ⟨records, rfl, hrecords⟩ := ih
    exact ⟨record :: records, rfl, .cons hrecord hrecords⟩

/-- A search with the records behind its hits makes one request to the backend: the search. -/
theorem exchanges_searchAndLoad {request : SearchRequest} (hcallback : request.callback = none)
    {params : SearchParams}
    (hparams : request.params (SearchRequest.limitValue request.limit) .null = .ok params)
    (surroundings : Surroundings σ) (state : σ) :
    (searchAndLoad request).exchanges surroundings state =
      [(.search params, (surroundings.answer state (.search params)).1)] := by
  have hsame := sameSearch_of_params hparams Except.ok (search_eq _) fun _ => search_eq _
  have hown : request.withoutCallback = request := by
    rw [SearchRequest.withoutCallback, ← hcallback]
  have hsearch := hsame.sent surroundings state
  rw [hown] at hsearch
  rw [searchAndLoad, Program.exchanges_bind, hsearch]
  -- What follows the search asks the record store alone.
  rcases (search request).run surroundings state with ⟨outcome, events, later⟩
  cases outcome with
  | error e => rfl
  | ok reply =>
    cases reply with
    | value v => rfl
    | results results =>
      dsimp only
      rw [(eachRequest_loadHits request results).exchanges_eq_nil surroundings later]
      rfl

/-- **The records of the hits are loaded.** If the backend answers a search with hits for ids of a
    batch, and the record store with the records of the batch, then the record of each id is
    loaded, in the order of the hits. -/
theorem exists_loaded {request : SearchRequest} {records : List Record} {ids : List String}
    (h : IsBatch request.type records) (hids : AreIds ids records)
    (hcallback : request.callback = none) (hload : request.type.loadable = true)
    {params : SearchParams}
    (hparams : request.params (SearchRequest.limitValue request.limit) .null = .ok params)
    (surroundings : Surroundings σ) (state : σ) {response : Value} {total : Nat}
    {hits : List String} {answer : Resolution} (hhits : ∀ id ∈ hits, id ∈ ids) (htotal : total ≠ 0)
    (hanswer : (surroundings.answer state (.search params)).1 = .ok response)
    (hlists : ListsHits total hits response)
    (hresolve : surroundings.resolve request.type (hits.map Value.str) = .ok answer)
    (hreturns : answer.Returns records) :
    ∃ loaded : List Record,
      ((searchAndLoad request).run surroundings state).outcome = .ok (loaded.map Item.record)
        ∧ List.Forall₂ (fun id record => record ∈ records ∧ record.id = .ok id) hits loaded := by
  obtain ⟨results, haccepted, rfl, hlisted⟩ := exists_results_of_listsHits hlists
  have hanswered : Answered surroundings state request response results :=
    ⟨hcallback, ⟨params, hparams, hanswer⟩, haccepted⟩
  obtain ⟨before, later, -, hrun⟩ := run_searchAndLoad hanswered
  have hwritten : ∀ id ∈ hits, ∃ record ∈ records, record.id = .ok id :=
    fun id hid => exists_of_mem_right hids (hhits id hid)
  have hknows : KnowsEach surroundings request.type (hits.map Value.str) := by
    intro id hid
    obtain ⟨text, htext, rfl⟩ := List.mem_map.1 hid
    obtain ⟨record, hrecord, hown⟩ := hwritten text htext
    exact ⟨.record record, hload, answer, hresolve, hasText_of_returns hids hreturns,
      knownAs_of_returns h hreturns hrecord hown⟩
  obtain ⟨items, hitems, hall⟩ :=
    outcome_loadHits_of_knowsEach surroundings later htotal (ids_eq hlisted) hknows
  rw [List.forall₂_map_left_iff] at hall
  have heach : List.Forall₂ (fun id item => ∃ record, item = Item.record record
      ∧ record ∈ records ∧ record.id = .ok id) hits items := by
    refine ((List.forall₂_and_left _ _).2 ⟨hwritten, hall⟩).imp fun id item hboth => ?_
    obtain ⟨⟨record, hrecord, hown⟩, -, other, hother, -, hknown⟩ := hboth
    -- The record store has given one answer, which knows the id as one item.
    rw [hresolve, Except.ok.injEq] at hother
    subst hother
    exact ⟨record, hknown.unique (knownAs_of_returns h hreturns hrecord hown), hrecord, hown⟩
  obtain ⟨loaded, rfl, hloaded⟩ := exists_records_of_forall₂ heach
  exact ⟨loaded, by rw [hrun, hitems], hloaded⟩

/-- **Round trip.** The records of a batch have ids, the texts of their identities, unless one of
    these is an integer with too many digits. Every bulk request of an update of the batch names
    the ids of its records, all in the index of the record type, and an update that ends well has
    sent one. So a batch without ids is never written.

    Ids are pairwise distinct. A search on the record type is sent with parameters, against the same
    index unless the request names another one. Whenever it is answered with hits for some of the
    ids, in any order and with any stored documents, and the record store answers with the batch,
    then the record that was written under each id is loaded, in the order of the hits. -/
theorem written_records_are_loaded (type : RecordType) (records : List Record) (name : String)
    (h : IsBatch type records) (hindex : type.index = .str name)
    (hschema : IsSchema type.properties) (hload : type.loadable = true) :
    ((∃ ids, AreIds ids records) ↔
        ∀ record ∈ records, ∀ n, record.key = .int n → n.natAbs < 10 ^ Decimal.digitLimit)
      ∧ (∀ {σ : Type} (surroundings : Surroundings σ) (state : σ),
        (∀ lines answer,
            (Query.bulk lines, answer) ∈ (update records).exchanges surroundings state →
            ∃ ids, AreIds ids records ∧ headerAddresses lines = ids.map fun id => ⟨name, id⟩)
          ∧ (records ≠ [] → ((update records).run surroundings state).outcome = .ok () →
            ∃ lines answer,
              (Query.bulk lines, answer) ∈ (update records).exchanges surroundings state))
      ∧ ∀ ids, AreIds ids records → ids.Nodup
        ∧ ∀ request : SearchRequest, request.type = type → request.callback = none →
        ∃ params, (request.index = none ∨ request.index = some "" → params.index = .str name)
          ∧ ∀ {σ : Type} (surroundings : Surroundings σ) (state : σ),
            (searchAndLoad request).exchanges surroundings state =
                [(.search params, (surroundings.answer state (.search params)).1)]
              ∧ ∀ (response : Value) (total : Nat) (hits : List String) (answer : Resolution),
                (∀ id ∈ hits, id ∈ ids) → total ≠ 0 →
                (surroundings.answer state (.search params)).1 = .ok response →
                ListsHits total hits response →
                surroundings.resolve type (hits.map Value.str) = .ok answer →
                answer.Returns records →
                ∃ loaded : List Record,
                  ((searchAndLoad request).run surroundings state).outcome =
                    .ok (loaded.map Item.record)
                  ∧ List.Forall₂ (fun id record => record ∈ records ∧ record.id = .ok id) hits
                    loaded := by
  refine ⟨h.exists_areIds_iff, ?_, ?_⟩
  · intro σ surroundings state
    refine ⟨fun lines answer hmem => headerAddresses_of_update h hindex hmem, ?_⟩
    intro hne hends
    obtain ⟨first, rest, rfl⟩ := List.exists_cons_of_ne_nil hne
    -- That an update has ended well says that its bulk request was answered.
    have htranscript := Program.hasTranscript_run surroundings (update (first :: rest)) state
    rw [hends] at htranscript
    exact exists_bulk_of_update htranscript
  · intro ids hids
    refine ⟨hids.eq_shown ▸ h.nodup_shownId, ?_⟩
    rintro request rfl hcallback
    obtain ⟨params, hparams⟩ :=
      exists_params_eq_ok request hschema (SearchRequest.limitValue request.limit) .null
    refine ⟨params, ?_, ?_⟩
    · intro hown
      rw [index_of_params hparams, SearchRequest.indexName]
      rcases hown with hnone | hempty
      · rw [hnone]
        exact hindex
      · rw [hempty]
        exact hindex
    · intro σ surroundings state
      refine ⟨exchanges_searchAndLoad hcallback hparams surroundings state, ?_⟩
      intro response total hits answer hhits htotal hanswer hlists hresolve hreturns
      exact exists_loaded h hids hcallback hload hparams surroundings state hhits htotal hanswer
        hlists hresolve hreturns

/-- Two products whose identities differ by their sign. -/
def shoePair : List Record :=
  [⟨product, .int 7, .mapping [("name", .str "left")]⟩,
    ⟨product, .int (-7), .mapping [("name", .str "right")]⟩]

/-- A product whose number has one digit more than is written. -/
def longNumbered : Record := ⟨product, .int (.ofNat (10 ^ Decimal.digitLimit)), .mapping []⟩

/-- Three hits for the products, one of them with a stored document that has an id of its own. -/
def shoeHits : Value :=
  .mapping [("hits", .mapping [("total", .int 3), ("hits", .list [
    .mapping [("_id", .str "-7"), ("_source", .mapping [("_id", .str "7")])],
    .mapping [("_id", .str "7"), ("_source", .null)],
    .mapping [("_id", .str "-7")]])])]

/-- A backend that answers every search with these hits, and a record store with the products. -/
def shoeStore : Surroundings Unit where
  answer u query :=
    match query with
    | .search _ => (.ok shoeHits, u)
    | _ => (.ok (.mapping []), u)
  resolve _ _ := .ok (.entries (shoePair.reverse.map fun record => (record.key, .record record)))

/-- The products are a batch. -/
theorem isBatch_shoePair : IsBatch product shoePair where
  types record hmem := by
    simp only [shoePair, List.mem_cons, List.not_mem_nil, or_false] at hmem
    rcases hmem with rfl | rfl <;> rfl
  keys := by
    refine .inl fun record hmem => ?_
    simp only [shoePair, List.mem_cons, List.not_mem_nil, or_false] at hmem
    rcases hmem with rfl | rfl <;> exact ⟨_, rfl⟩
  distinct := by simp [shoePair]

/-- The response lists the products in some order, one of them twice. -/
theorem listsHits_shoeHits : ListsHits 3 ["-7", "7", "-7"] shoeHits := by
  refine .mk rfl rfl (Checked.natural_natCast 3) (.cons ?_ (.cons ?_ (.cons ?_ .nil)))
  · exact ⟨_, rfl, rfl, fun source hsource => .inr ⟨_, (Option.some.inj hsource).symm⟩⟩
  · exact ⟨_, rfl, rfl, fun source hsource => .inl ((Option.some.inj hsource) ▸ rfl)⟩
  · exact ⟨_, rfl, rfl, fun source hsource => nomatch hsource⟩

/-- A product alone is a batch. -/
theorem isBatch_longNumbered : IsBatch product [longNumbered] where
  types record hmem := by
    obtain rfl := List.mem_singleton.1 hmem
    rfl
  keys := by
    refine .inl fun record hmem => ?_
    obtain rfl := List.mem_singleton.1 hmem
    exact ⟨_, rfl⟩
  distinct := List.nodup_singleton _

/-- The products are written under their ids, and each hit gives the product of its id. A product
    with too long a number is not written. -/
theorem shoePair_round_trip :
    IsBatch product shoePair ∧ product.index = .str "products" ∧ IsSchema product.properties
      ∧ product.loadable = true
      ∧ (∃ lines answer,
        (Query.bulk lines, answer) ∈ (update shoePair).exchanges shoeStore ()
        ∧ headerAddresses lines = [⟨"products", "7"⟩, ⟨"products", "-7"⟩])
      ∧ (∃ loaded : List Record,
        ((searchAndLoad redShoes).run shoeStore ()).outcome = .ok (loaded.map Item.record)
        ∧ List.Forall₂ (fun id record => record ∈ shoePair ∧ record.id = .ok id) ["-7", "7", "-7"]
          loaded)
      ∧ IsBatch product [longNumbered]
      ∧ ∀ lines answer,
        (Query.bulk lines, answer) ∉ (update [longNumbered]).exchanges shoeStore () := by
  have hschema : IsSchema product.properties := .inr ⟨_, rfl⟩
  obtain ⟨-, hwrites, hreads⟩ :=
    written_records_are_loaded product shoePair "products" isBatch_shoePair rfl hschema rfl
  obtain ⟨hdigits, hlong, -⟩ := written_records_are_loaded product [longNumbered] "products"
    isBatch_longNumbered rfl hschema rfl
  have hids : AreIds ["7", "-7"] shoePair := .cons rfl (.cons rfl .nil)
  obtain ⟨haddresses, hsent⟩ := hwrites shoeStore ()
  obtain ⟨lines, answer, hmem⟩ := hsent (by decide) rfl
  obtain ⟨ids, hown, hlines⟩ := haddresses lines answer hmem
  -- An update names the ids in the order of the records.
  obtain rfl : ids = ["7", "-7"] := hown.eq_shown.trans hids.eq_shown.symm
  obtain ⟨-, hsearches⟩ := hreads _ hids
  obtain ⟨params, -, hloads⟩ := hsearches redShoes rfl rfl
  refine ⟨isBatch_shoePair, rfl, hschema, rfl, ⟨lines, answer, hmem, hlines⟩, ?_,
    isBatch_longNumbered, ?_⟩
  · refine (hloads shoeStore ()).2 shoeHits 3 ["-7", "7", "-7"] _ (by decide) (by decide) rfl
      listsHits_shoeHits rfl ?_
    exact ⟨shoePair.reverse, List.reverse_perm shoePair, .inr rfl⟩
  · intro lines answer hmem
    obtain ⟨ids, hids, -⟩ := (hlong shoeStore ()).1 lines answer hmem
    -- The number has one digit more than the limit.
    have hless := hdigits.1 ⟨ids, hids⟩ longNumbered List.mem_cons_self _ rfl
    exact Nat.lt_irrefl _ hless

end RecordSearch
