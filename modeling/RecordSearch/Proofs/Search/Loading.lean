import RecordSearch.Search.Loading
import RecordSearch.Proofs.Traversal
import RecordSearch.Proofs.Value.Keyed

namespace RecordSearch

/-!
# Hits and the records behind them

A record store answers with items in any order, by identity or not, and the hits are walked
in their own order.

* `KnownAs`: the item that an answer holds for an identity;
* `Projection`: the items of identities, one after the other, without those that are not
  known;
* `Resolution.byText`: records as a mapping by the texts of their identities.

`loadHits_projects` says that loading is this projection, that the store is asked once, and
that the form of its answer does not matter.
-/

/-! ### What a record store knows -/

/-- The items of an answer with the values that identify them. -/
def Resolution.pairs : Resolution → List (Value × Item)
  | .entries es => es
  | .records rs => rs.map fun r => (r.key, .record r)

/-- The value has a text. -/
def HasText (v : Value) : Prop := ∃ text, Failure.textOf v = .ok text

/-- The values have the same text. -/
def SameText (v w : Value) : Prop :=
  ∃ text, Failure.textOf v = .ok text ∧ Failure.textOf w = .ok text

/-- **What is known.** An answer knows an identity by the last item with its text, if that is
    not nothing. -/
def KnownAs (answer : Resolution) (id : Value) (item : Item) : Prop :=
  item.isNothing = false ∧ ∃ before key after,
    answer.pairs = before ++ (key, item) :: after ∧ SameText key id
      ∧ ∀ e ∈ after, ¬ SameText e.1 id

/-- Every value that an answer and the identities are matched by has a text. -/
def AllHaveText (answer : Resolution) (ids : List Value) : Prop :=
  (∀ e ∈ answer.pairs, HasText e.1) ∧ ∀ id ∈ ids, HasText id

/-- The items of identities: what is known, one after the other, and nothing else. -/
inductive Projection (answer : Resolution) : List Value → List Item → Prop where
  | nil : Projection answer [] []
  | found {id : Value} {item : Item} {ids : List Value} {items : List Item}
      (known : KnownAs answer id item) (rest : Projection answer ids items) :
      Projection answer (id :: ids) (item :: items)
  | stale {id : Value} {ids : List Value} {items : List Item}
      (unknown : ∀ item, ¬ KnownAs answer id item) (rest : Projection answer ids items) :
      Projection answer (id :: ids) items

/-- The mapping of records by texts; of several records with one text the last one counts. -/
def Resolution.byText (texts : List String) (records : List Record) : Resolution :=
  .entries (Value.keyed ((texts.zip (records.map Item.record)).map textEntry))

/-! ### The last item of a text -/

theorem shownText_eq {v : Value} {text : String} (h : Failure.textOf v = .ok text) :
    Failure.shownText v = text := by
  rw [Failure.shownText, h]

theorem HasText.textOf_eq {v : Value} (h : HasText v) :
    Failure.textOf v = .ok (Failure.shownText v) := by
  obtain ⟨text, htext⟩ := h
  rw [htext, shownText_eq htext]

/-- Values with a text have the same one if it is shown alike. -/
theorem sameText_iff {v w : Value} (hv : HasText v) (hw : HasText w) :
    SameText v w ↔ Failure.shownText v = Failure.shownText w := by
  constructor
  · rintro ⟨text, htv, htw⟩
    rw [shownText_eq htv, shownText_eq htw]
  · intro h
    exact ⟨_, hv.textOf_eq, h ▸ hw.textOf_eq⟩

/-- An item with the text of what identifies it. -/
def shownEntry (e : Value × Item) : String × Item := (Failure.shownText e.1, e.2)

/-- The items of an answer by the texts of what identifies them. -/
def Resolution.shown (answer : Resolution) : List (String × Item) :=
  answer.pairs.map shownEntry

/-- An answer all of whose keys have a text is read completely. -/
theorem byId_eq {answer : Resolution} (h : ∀ e ∈ answer.pairs, HasText e.1) :
    answer.byId = .ok answer.shown := by
  cases answer with
  | entries es =>
    exact mapM_eq_ok_of_forall _ fun e he => by rw [(h e he).textOf_eq]; rfl
  | records rs =>
    rw [Resolution.shown, Resolution.pairs, List.map_map]
    refine mapM_eq_ok_of_forall _ fun r hr => ?_
    have htext : HasText r.key := h (r.key, .record r) (List.mem_map_of_mem hr)
    rw [Record.id, htext.textOf_eq]
    rfl

/-- An answer with a key that has no text is not read at all. -/
theorem exists_byId_eq_error {answer : Resolution} (h : ¬ ∀ e ∈ answer.pairs, HasText e.1) :
    ∃ problem, answer.byId = .error problem := by
  rw [not_forall] at h
  obtain ⟨e, he⟩ := h
  rw [Classical.not_imp] at he
  obtain ⟨hmem, hnone⟩ := he
  -- All texts are made before any item is looked up, so that one without a text ends it.
  cases answer with
  | entries es =>
    refine exists_mapM_eq_error hmem fun b hb => hnone ?_
    cases htext : Failure.textOf e.1 with
    | ok text => exact ⟨text, htext⟩
    | error problem =>
      rw [htext] at hb
      cases hb
  | records rs =>
    obtain ⟨r, hr, rfl⟩ := List.mem_map.1 hmem
    refine exists_mapM_eq_error hr fun b hb => hnone ?_
    cases htext : Failure.textOf r.key with
    | ok text => exact ⟨text, htext⟩
    | error problem =>
      rw [Record.id, htext] at hb
      cases hb

/-- The item of a text is the last one, unless that is nothing. -/
theorem itemFor_eq_some_iff (items : List (String × Item)) (text : String) (item : Item) :
    itemFor items text = some item ↔
      item.isNothing = false ∧ items.reverse.lookup text = some item := by
  rw [itemFor, Option.filter_eq_some_iff, Bool.not_eq_true', and_comm]

/-- The item that is looked up for an identity is the one that it is known by. -/
theorem itemFor_shown_iff {answer : Resolution} (h : ∀ e ∈ answer.pairs, HasText e.1)
    {id : Value} (hid : HasText id) (item : Item) :
    itemFor answer.shown (Failure.shownText id) = some item ↔ KnownAs answer id item := by
  rw [itemFor_eq_some_iff, KnownAs, lookup_reverse_eq_some_iff, Resolution.shown]
  refine and_congr_right fun _ => ?_
  -- The items with their texts split where the items themselves do.
  constructor
  · rintro ⟨before, after, heq, hlast⟩
    obtain ⟨pre, post, hpairs, -, hpost⟩ := List.map_eq_append_iff.1 heq
    obtain ⟨e, rest, rfl, hentry, rfl⟩ := List.map_eq_cons_iff.1 hpost
    obtain ⟨key, known⟩ := e
    obtain ⟨hshown, rfl⟩ := Prod.mk.inj hentry
    have hmem : ∀ e ∈ (key, known) :: rest, e ∈ answer.pairs := fun e he =>
      hpairs ▸ List.mem_append_right pre he
    refine ⟨pre, key, rest, hpairs, ?_, fun e he hsame => ?_⟩
    · exact (sameText_iff (h _ (hmem _ List.mem_cons_self)) hid).2 hshown
    · have htext : HasText e.1 := h e (hmem e (List.mem_cons_of_mem _ he))
      exact hlast _ (List.mem_map_of_mem he) ((sameText_iff htext hid).1 hsame)
  · rintro ⟨before, key, after, hpairs, hsame, hlast⟩
    have hmem : ∀ e ∈ (key, item) :: after, e ∈ answer.pairs := fun e he =>
      hpairs ▸ List.mem_append_right before he
    refine ⟨before.map shownEntry, after.map shownEntry, ?_, ?_⟩
    · rw [hpairs, List.map_append, List.map_cons, shownEntry,
        (sameText_iff (h _ (hmem _ List.mem_cons_self)) hid).1 hsame]
    · intro e he
      obtain ⟨e, hafter, rfl⟩ := List.mem_map.1 he
      have htext : HasText e.1 := h e (hmem e (List.mem_cons_of_mem _ hafter))
      exact fun hshown => hlast e hafter ((sameText_iff htext hid).2 hshown)

/-- An identity is known as one item only. -/
theorem KnownAs.unique {answer : Resolution} {id : Value} {item other : Item}
    (h : KnownAs answer id item) (h' : KnownAs answer id other) : item = other := by
  obtain ⟨-, before, key, after, hpairs, hsame, hlast⟩ := h
  obtain ⟨-, before', key', after', hpairs', hsame', hlast'⟩ := h'
  -- Neither of the two last items can come after the other.
  rcases List.append_eq_append_iff.1 (hpairs.symm.trans hpairs') with
    ⟨between, -, heq⟩ | ⟨between, -, heq⟩
  · cases between with
    | nil => cases heq; rfl
    | cons e between =>
      obtain ⟨-, rfl⟩ := List.cons.inj heq
      exact absurd hsame' (hlast (key', other) (List.mem_append_right between List.mem_cons_self))
  · cases between with
    | nil => cases heq; rfl
    | cons e between =>
      obtain ⟨-, rfl⟩ := List.cons.inj heq
      exact absurd hsame (hlast' (key, item) (List.mem_append_right between List.mem_cons_self))

/-! ### Walking the identities -/

/-- The items that are looked up for identities are their projection. -/
theorem projection_itemFor {answer : Resolution} {ids : List Value}
    (hkeys : ∀ e ∈ answer.pairs, HasText e.1) (hids : ∀ id ∈ ids, HasText id) :
    Projection answer ids
      ((ids.map Failure.shownText).filterMap (itemFor answer.shown)) := by
  induction ids with
  | nil => exact .nil
  | cons id ids ih =>
    have hid : HasText id := hids id List.mem_cons_self
    have hrest := ih fun other hother => hids other (List.mem_cons_of_mem _ hother)
    rw [List.map_cons, List.filterMap_cons]
    cases hitem : itemFor answer.shown (Failure.shownText id) with
    | some item => exact .found ((itemFor_shown_iff hkeys hid item).1 hitem) hrest
    | none =>
      refine .stale (fun item hknown => ?_) hrest
      rw [(itemFor_shown_iff hkeys hid item).2 hknown] at hitem
      cases hitem

/-- Every item of a projection is known for one of the identities. -/
theorem Projection.exists_known {answer : Resolution} {ids : List Value} {items : List Item}
    (h : Projection answer ids items) : ∀ item ∈ items, ∃ id ∈ ids, KnownAs answer id item := by
  induction h with
  | nil => intro item hitem; cases hitem
  | @found id first ids items known rest ih =>
    intro item hitem
    rcases List.mem_cons.1 hitem with rfl | hitem
    · exact ⟨id, List.mem_cons_self, known⟩
    · obtain ⟨other, hother, hknown⟩ := ih item hitem
      exact ⟨other, List.mem_cons_of_mem _ hother, hknown⟩
  | stale unknown rest ih =>
    intro item hitem
    obtain ⟨other, hother, hknown⟩ := ih item hitem
    exact ⟨other, List.mem_cons_of_mem _ hother, hknown⟩

/-- If every identity is known, the projection has one item for each, in their order. -/
theorem Projection.forall₂ {answer : Resolution} {ids : List Value} {items : List Item}
    (h : Projection answer ids items) (hknown : ∀ id ∈ ids, ∃ item, KnownAs answer id item) :
    List.Forall₂ (KnownAs answer) ids items := by
  induction h with
  | nil => exact .nil
  | found known rest ih =>
    exact .cons known (ih fun id hid => hknown id (List.mem_cons_of_mem _ hid))
  | stale unknown rest ih =>
    obtain ⟨item, hitem⟩ := hknown _ List.mem_cons_self
    exact absurd hitem (unknown item)

/-- A projection has no more items than there are identities. -/
theorem Projection.length_le {answer : Resolution} {ids : List Value} {items : List Item}
    (h : Projection answer ids items) : items.length ≤ ids.length := by
  induction h with
  | nil => exact Nat.le_refl _
  | found known rest ih => exact Nat.succ_le_succ ih
  | stale unknown rest ih => exact Nat.le_succ_of_le ih

/-- **Hit order.** The items of some of the identities stand in the order of these among the
    items of all. -/
theorem Projection.sublist {answer : Resolution} {ids part : List Value}
    (hsub : List.Sublist part ids) {items partItems : List Item}
    (hpart : Projection answer part partItems) (h : Projection answer ids items) :
    List.Sublist partItems items := by
  -- The induction is on how the part lies in the whole. Where an identity is in both, it is
  -- known in both or in neither, and as one item.
  induction hsub generalizing items partItems with
  | slnil => cases hpart; exact List.nil_sublist _
  | cons id hsub ih =>
    cases h with
    | found known rest => exact (ih hpart rest).cons _
    | stale unknown rest => exact ih hpart rest
  | cons_cons id hsub ih =>
    cases hpart with
    | found known partRest =>
      cases h with
      | found known' rest => exact known.unique known' ▸ (ih partRest rest).cons_cons _
      | stale unknown rest => exact absurd known (unknown _)
    | stale unknown partRest =>
      cases h with
      | found known rest => exact absurd known (unknown _)
      | stale unknown' rest => exact ih partRest rest

/-- The projection of an identity that is repeated repeats its item. -/
theorem projection_replicate {answer : Resolution} {id : Value} {item : Item}
    (known : KnownAs answer id item) (n : Nat) :
    Projection answer (List.replicate n id) (List.replicate n item) := by
  induction n with
  | zero => exact .nil
  | succ n ih => exact .found known ih

/-! ### The form of an answer -/

/-- Records with their texts, as they are read from an answer. -/
theorem byId_records {records : List Record} {texts : List String}
    (htexts : records.map Record.id = texts.map Except.ok) :
    (Resolution.records records).byId = .ok (texts.zip (records.map Item.record)) := by
  rw [Resolution.byId, mapM_eq_ok_iff]
  induction records generalizing texts with
  | nil => cases texts <;> simp_all
  | cons r records ih =>
    cases texts with
    | nil => cases htexts
    | cons text texts =>
      obtain ⟨hid, hrest⟩ := List.cons.inj htexts
      rw [List.map_cons, List.map_cons, List.zip_cons_cons, List.map_cons, ih hrest, hid]
      rfl

/-- A mapping by texts, as it is read from an answer. -/
theorem byId_byText (texts : List String) (records : List Record) :
    (Resolution.byText texts records).byId =
      .ok ((texts.zip (records.map Item.record)).foldl (fun es e => setText es e.1 e.2) []) := by
  rw [Resolution.byText, Resolution.byId, keyed_textEntry, mapM_eq_ok_iff, List.map_map]
  rfl

/-- Records and their mapping by texts have the same item for every text. -/
theorem itemFor_foldl_setText (entries : List (String × Item)) (text : String) :
    itemFor (entries.foldl (fun es e => setText es e.1 e.2) []) text = itemFor entries text := by
  rw [itemFor, itemFor, lookup_reverse_of_nodup (nodup_foldl_setText entries),
    lookup_foldl_setText, List.lookup_nil, Option.or_none]

/-! ### The run of loading -/

variable {σ : Type}

/-- The identities of hits that all have one. -/
theorem ids_eq {results : SearchResults} {ids : List Value}
    (hids : results.hits.map (fun hit => hit.get? "_id") = ids.map some) :
    results.ids = .ok ids := by
  have hknown : List.Forall₂ (fun (hit : Document) id => hit.get? "_id" = some id)
      results.hits ids := by
    rwa [← List.forall₂_eq_eq_eq, List.forall₂_map_left_iff, List.forall₂_map_right_iff] at hids
  rw [SearchResults.ids, mapM_eq_ok_iff, ← List.forall₂_eq_eq_eq, List.forall₂_map_left_iff,
    List.forall₂_map_right_iff]
  refine hknown.imp fun hit id hid => ?_
  rw [SearchResults.idOf, idKey, hid]

/-- The lines about hits that were dropped: one that tells how many, and none if none were. -/
def droppedLines (count : Nat) : List Event :=
  if count = 0 then [] else [.log (.hitsDropped count)]

/-- With hits, loading asks the record store once and goes on with its answer. -/
theorem loadHits_eq {request : SearchRequest} {results : SearchResults} {ids : List Value}
    (htotal : results.total ≠ 0) (hids : results.ids = .ok ids) (hne : ids ≠ [])
    (hload : request.type.loadable = true) :
    loadHits request results = .resolve request.type ids fun
      | .error failure => .fail (.raised failure)
      | .ok answer => answer.load ids := by
  rw [loadHits, if_neg htotal, hids]
  simp only [Program.ofExcept, Program.done_bind]
  rw [if_neg (by simpa using hne), hload]
  rfl

/-- What follows an answer whose values all have texts. -/
theorem run_load (surroundings : Surroundings σ) (state : σ) {answer : Resolution}
    {ids : List Value} {items : List (String × Item)} {texts : List String}
    (hitems : answer.byId = .ok items) (htexts : ids.mapM Failure.textOf = .ok texts) :
    (answer.load ids).run surroundings state =
      ⟨.ok (texts.filterMap (itemFor items)),
        droppedLines (ids.length - (texts.filterMap (itemFor items)).length), state⟩ := by
  rw [Resolution.load, hitems, htexts]
  simp only [Except.mapError, Program.ofExcept, Program.done_bind, droppedLines]
  -- Nothing more is found than was looked for, so that the lengths differ in one way only.
  by_cases h : (texts.filterMap (itemFor items)).length < ids.length
  · rw [if_pos h, if_neg (by omega)]
    rfl
  · rw [if_neg h, if_pos (by omega)]
    rfl

/-- What follows an answer with a value that has no text. -/
theorem run_load_error (surroundings : Surroundings σ) (state : σ) {answer : Resolution}
    {ids : List Value} (h : ¬ AllHaveText answer ids) :
    ∃ problem, (answer.load ids).run surroundings state =
      ⟨.error (.ofUnprintable problem), [], state⟩ := by
  by_cases hkeys : ∀ e ∈ answer.pairs, HasText e.1
  · have hids : ¬ ∀ id ∈ ids, HasText id := fun hids => h ⟨hkeys, hids⟩
    obtain ⟨id, hid, hnone⟩ : ∃ id ∈ ids, ¬ HasText id := by simpa using hids
    obtain ⟨problem, hproblem⟩ := exists_mapM_eq_error hid fun text htext => hnone ⟨text, htext⟩
    rw [Resolution.load, byId_eq hkeys, hproblem]
    exact ⟨problem, rfl⟩
  · obtain ⟨problem, hproblem⟩ := exists_byId_eq_error hkeys
    rw [Resolution.load, hproblem]
    exact ⟨problem, rfl⟩

/-- Records are gone on with like their mapping by texts. -/
theorem load_byText {records : List Record} {texts : List String}
    (htexts : records.map Record.id = texts.map Except.ok) (ids : List Value) :
    (Resolution.byText texts records).load ids = (Resolution.records records).load ids := by
  have hitem : itemFor ((texts.zip (records.map Item.record)).foldl
      (fun es e => setText es e.1 e.2) []) = itemFor (texts.zip (records.map Item.record)) :=
    funext (itemFor_foldl_setText _)
  rw [Resolution.load, Resolution.load, byId_byText, byId_records htexts]
  simp only [Except.mapError, Program.ofExcept, Program.done_bind, hitem]

/-- What follows an answer makes no request, so that nothing around it matters. -/
theorem run_load_eq (surroundings other : Surroundings σ) (state : σ) (answer : Resolution)
    (ids : List Value) :
    (answer.load ids).run surroundings state = (answer.load ids).run other state := by
  rw [Resolution.load]
  cases answer.byId with
  | error problem => rfl
  | ok items =>
    cases ids.mapM Failure.textOf with
    | error problem => rfl
    | ok texts =>
      simp only [Except.mapError, Program.ofExcept, Program.done_bind]
      by_cases h : (texts.filterMap (itemFor items)).length < ids.length
      · rw [if_pos h]
        rfl
      · rw [if_neg h]
        rfl

/-- The run of loading is the run of what follows the answer, after one request to the record
    store. -/
theorem run_loadHits (surroundings : Surroundings σ) (state : σ) {request : SearchRequest}
    {results : SearchResults} {ids : List Value} {answer : Resolution}
    (htotal : results.total ≠ 0) (hids : results.ids = .ok ids) (hne : ids ≠ [])
    (hload : request.type.loadable = true)
    (hanswer : surroundings.resolve request.type ids = .ok answer) :
    (loadHits request results).run surroundings state =
      { (answer.load ids).run surroundings state with
        events := .resolve request.type ids ::
          ((answer.load ids).run surroundings state).events } := by
  rw [loadHits_eq htotal hids hne hload, Program.run, hanswer]

/-- Loading gives the projection of the identities, if every value has a text. -/
theorem run_loadHits_projection (surroundings : Surroundings σ) (state : σ)
    {request : SearchRequest} {results : SearchResults} {ids : List Value} {answer : Resolution}
    (htotal : results.total ≠ 0) (hids : results.ids = .ok ids) (hne : ids ≠ [])
    (hload : request.type.loadable = true)
    (hanswer : surroundings.resolve request.type ids = .ok answer)
    (htext : AllHaveText answer ids) :
    ∃ items, Projection answer ids items ∧ (loadHits request results).run surroundings state =
      ⟨.ok items, .resolve request.type ids :: droppedLines (ids.length - items.length),
        state⟩ := by
  obtain ⟨hkeys, hidTexts⟩ := htext
  refine ⟨_, projection_itemFor hkeys hidTexts, ?_⟩
  rw [run_loadHits surroundings state htotal hids hne hload hanswer,
    run_load surroundings state (byId_eq hkeys)
      (mapM_eq_ok_of_forall _ fun id hid => (hidTexts id hid).textOf_eq)]

/-- The events of loading that drops the given number of hits: one request to the record store
    with the identities, and a line of no weight that tells the number unless it is zero. -/
def LoadingEvents (type : RecordType) (ids : List Value) (dropped : Nat)
    (events : List Event) : Prop :=
  if dropped = 0 then events = [.resolve type ids]
  else ∃ line : LogEntry, events = [.resolve type ids, .log line] ∧ line.severity = .debug ∧
    line.text = "Dropped " ++ toString dropped ++ " hits with no matching record"

theorem loadingEvents_droppedLines (type : RecordType) (ids : List Value) (dropped : Nat) :
    LoadingEvents type ids dropped (.resolve type ids :: droppedLines dropped) := by
  unfold LoadingEvents droppedLines
  by_cases h : dropped = 0
  · rw [if_pos h, if_pos h]
  · rw [if_neg h, if_neg h]
    exact ⟨.hitsDropped dropped, rfl, rfl, rfl⟩

/-- **Loading is a projection in hit order.** If there are hits, all with an identity, and the
    record store answers, then it is asked exactly once, with the identities in hit order.

    If all keys and identities have a text, the outcome is the projection of the identities.
    Its items are known for hits, those of some hits stand in the order of these, and an
    identity that is listed `n` times has its item `n` times. A line tells how many hits were
    dropped, and there is none if none were. If a text is missing, loading fails.

    Records are met like the mapping of them by the texts of their identities. -/
theorem loadHits_projects (surroundings : Surroundings σ) (state : σ) (request : SearchRequest)
    (results : SearchResults) (ids : List Value) (answer : Resolution)
    (htotal : results.total ≠ 0)
    (hids : results.hits.map (fun hit => hit.get? "_id") = ids.map some) (hne : ids ≠ [])
    (hload : request.type.loadable = true)
    (hanswer : surroundings.resolve request.type ids = .ok answer) :
    (AllHaveText answer ids → ∃ items events,
      (loadHits request results).run surroundings state = ⟨.ok items, events, state⟩
      ∧ Projection answer ids items
      ∧ items.length ≤ ids.length
      ∧ LoadingEvents request.type ids (ids.length - items.length) events
      ∧ (∀ item ∈ items, ∃ id ∈ ids, KnownAs answer id item)
      ∧ (∀ part partItems, List.Sublist part ids → Projection answer part partItems →
          List.Sublist partItems items)
      ∧ ∀ n id item, KnownAs answer id item → List.Sublist (List.replicate n id) ids →
          List.Sublist (List.replicate n item) items)
    ∧ (¬ AllHaveText answer ids → ∃ problem,
      (loadHits request results).run surroundings state =
        ⟨.error (.ofUnprintable problem), [.resolve request.type ids], state⟩)
    ∧ ∀ records texts, answer = .records records →
      records.map Record.id = texts.map Except.ok →
      (loadHits request results).run
          { surroundings with resolve := fun _ _ => .ok (.byText texts records) } state
        = (loadHits request results).run surroundings state := by
  have hidsOk := ids_eq hids
  -- The run depends on the answer by its projection alone; the three cases say what that is.
  refine ⟨fun htext => ?_, fun hnone => ?_, ?_⟩
  · obtain ⟨items, hproj, hrun⟩ :=
      run_loadHits_projection surroundings state htotal hidsOk hne hload hanswer htext
    refine ⟨items, _, hrun, hproj, hproj.length_le, loadingEvents_droppedLines _ _ _,
      hproj.exists_known, ?_, ?_⟩
    · intro part partItems hsub hpart
      exact Projection.sublist hsub hpart hproj
    · intro n id item hknown hsub
      exact Projection.sublist hsub (projection_replicate hknown n) hproj
  · obtain ⟨problem, hproblem⟩ := run_load_error surroundings state hnone
    rw [run_loadHits surroundings state htotal hidsOk hne hload hanswer, hproblem]
    exact ⟨problem, rfl⟩
  · rintro records texts rfl htexts
    rw [run_loadHits surroundings state htotal hidsOk hne hload hanswer,
      run_loadHits { surroundings with resolve := fun _ _ => .ok (.byText texts records) } state
        htotal hidsOk hne hload rfl, load_byText htexts,
      run_load_eq _ surroundings]

/-- A search for books. -/
def bookSearch : SearchRequest where
  type := ⟨"Book", .str "books", .null, true⟩
  query := ""
  wheres := []
  orders := []
  limit := none
  index := none
  callback := none

/-- Four hits for three identities, one of them listed as a number and as a text. -/
def bookHits : SearchResults :=
  ⟨4, [[("_id", .int 7)], [("_id", .str "lost")], [("_id", .str "gone")], [("_id", .str "7")]],
    none, []⟩

/-- The books of a store: two under one text, one given up, and none of another name. -/
def shelf : Resolution :=
  .entries [(.str "7", .value (.str "first copy")), (.str "gone", .value .null),
    (.int 7, .value (.str "second copy")), (.str "spare", .value (.str "unasked"))]

/-- The hits of books are loaded from the shelf. -/
theorem loadHits_bookHits :
    bookHits.total ≠ 0 ∧ ∃ items events,
      (loadHits bookSearch bookHits).run ⟨fun u _ => (.ok .null, u), fun _ _ => .ok shelf⟩ () =
        ⟨.ok items, events, ()⟩
      ∧ Projection shelf [.int 7, .str "lost", .str "gone", .str "7"] items
      ∧ LoadingEvents bookSearch.type [.int 7, .str "lost", .str "gone", .str "7"]
          (4 - items.length) events := by
  have htext : AllHaveText shelf [.int 7, .str "lost", .str "gone", .str "7"] := by
    constructor
    · intro e he
      simp only [shelf, Resolution.pairs, List.mem_cons, List.not_mem_nil, or_false] at he
      rcases he with rfl | rfl | rfl | rfl <;> exact ⟨_, rfl⟩
    · intro id hid
      simp only [List.mem_cons, List.not_mem_nil, or_false] at hid
      rcases hid with rfl | rfl | rfl | rfl <;> exact ⟨_, rfl⟩
  obtain ⟨items, events, hrun, hproj, -, hevents, -⟩ :=
    (loadHits_projects ⟨fun u _ => (.ok .null, u), fun _ _ => .ok shelf⟩ () bookSearch bookHits
      [.int 7, .str "lost", .str "gone", .str "7"] shelf (by decide) rfl (by decide) rfl rfl).1
      htext
  exact ⟨by decide, items, events, hrun, hproj, hevents⟩

end RecordSearch
