import RecordSearch.Proofs.Index.Attempt
import RecordSearch.Proofs.Interleaving

namespace RecordSearch

/-!
# Racing for an index

Whether an index is there is found out and not reserved. Callers that look for one at the same time
may all miss it, and then all of them create it.

* `Call`: a caller of which each transcript is an attempt to have the index (`Call.exists_attempt`);
* `Cluster`: a backend that serves one request at a time and holds indices with their mappings;
* `race`: calls in an interleaving;
* `Consistent`: what is true of a race all along (`Consistent.step`, `consistent_race`).

`race_has_one_creator` says that all callers succeed and that just one of them creates an index that
was missing.
-/

variable {σ : Type}

/-! ### Calls -/

/-- A caller that wants an index: to make sure of it, to create it, or to update records in it. -/
inductive Call where
  | ensure (properties : Value)
  | create (properties : Value)
  | update (first : Record) (rest : List Record)

namespace Call

/-- The descriptors with which the call creates the index. -/
def properties : Call → Value
  | .ensure properties | .create properties => properties
  | .update first _ => first.type.properties

/-- The body with which the call creates the index. -/
def body (call : Call) : Option Value := creationBody call.properties

/-- The program of a call. An update has no result. -/
def program (name : String) : Call → Program (Option Bool)
  | .ensure properties => some <$> Index.ensure (.str name) properties
  | .create properties => some <$> Index.create (.str name) properties
  | .update first rest => (fun _ => none) <$> RecordSearch.update (first :: rest)

/-- The result of a call that created the index, or did not. -/
def result : Call → (created : Bool) → Option Bool
  | .ensure _, created | .create _, created => some created
  | .update _ _, _ => none

/-- The descriptors are a mapping or missing, and an update is of records of which the first belongs
    to the index and all can be written. -/
def IsValid (name : String) (call : Call) : Prop :=
  IsSchema call.properties ∧
    match call with
    | .update first rest => first.type.index = .str name
      ∧ ∀ record ∈ first :: rest, record.settingLines? ≠ none
    | _ => True

/-- **Each transcript of a call is an attempt.** -/
theorem exists_attempt {name : String} (hname : name ≠ "") {call : Call}
    (hvalid : call.IsValid name) {exchanges : List Exchange} {outcome : Except Error (Option Bool)}
    (h : (call.program name).HasTranscript exchanges outcome) :
    ∃ attempted, Attempt name call.body exchanges attempted
      ∧ outcome = attempted.map call.result := by
  obtain ⟨hschema, hrecords⟩ := hvalid
  cases call with
  | ensure properties =>
    obtain ⟨before, hbefore, rfl⟩ := Program.hasTranscript_map h
    exact ⟨before, (Index.ensuring_of_hasTranscript hname hschema hbefore).attempt, rfl⟩
  | create properties =>
    obtain ⟨before, hbefore, rfl⟩ := Program.hasTranscript_map h
    exact ⟨before, (Index.creation_of_hasTranscript hname hschema hbefore).attempt, rfl⟩
  | update first rest =>
    obtain ⟨before, hbefore, rfl⟩ := Program.hasTranscript_map h
    obtain ⟨hindex, hlines⟩ := hrecords
    obtain ⟨attempted, hattempt, rfl⟩ :=
      (updating_of_hasTranscript hindex hname hschema hbefore).exists_attempt hlines
    -- An update has no result, however its attempt ends.
    refine ⟨attempted, hattempt, ?_⟩
    cases attempted <;> rfl

end Call

/-! ### Clusters -/

/-- **A cluster.** It serves each request at once and holds indices with the bodies that they were
    created with. An index is found if it is there, and created if it is not. Documents are always
    taken, and nothing but creations and deletions changes what indices there are. -/
structure Cluster (σ : Type) extends Surroundings σ where
  /-- The indices in a state, with their bodies. -/
  mappings : σ → String → Option (Option Value)
  finds : ∀ state name body, mappings state name = some body →
    ∃ v, (answer state (.getIndex (.str name))).1 = .ok v
  misses : ∀ state name, mappings state name = none →
    ∃ failure, (answer state (.getIndex (.str name))).1 = .error failure
      ∧ failure.isNotFound = true
  creates : ∀ state name body, mappings state name = none →
    (∃ v, (answer state (.createIndex name body)).1 = .ok v)
      ∧ mappings (answer state (.createIndex name body)).2
        = Function.update (mappings state) name (some body)
  refuses : ∀ state name body old, mappings state name = some old →
    (∃ failure, (answer state (.createIndex name body)).1 = .error failure
      ∧ failure.isAlreadyExists = .ok true)
      ∧ mappings (answer state (.createIndex name body)).2 = mappings state
  accepts : ∀ state lines, Accepted (answer state (.bulk lines)).1
  keeps : ∀ state query, (∀ name body, query ≠ .createIndex name body) →
    (∀ index, query ≠ .deleteIndex index) → mappings (answer state query).2 = mappings state

/-- The body with which an exchange created an index. -/
def creation? (name : String) : Exchange → Option (Option Value)
  | (.createIndex other body, .ok _) => if other = name then some body else none
  | _ => none

/-- An exchange created an index if that was asked for and went well. -/
theorem creation?_eq_some_iff {name : String} {exchange : Exchange} {body : Option Value} :
    creation? name exchange = some body ↔ ∃ v, exchange = (.createIndex name body, .ok v) := by
  rcases exchange with ⟨query, answer⟩
  cases query with
  | createIndex other made => cases answer <;> simp [creation?]
  | _ => simp [creation?]

namespace Cluster

variable (cluster : Cluster σ)

/-- A cluster serves every request. -/
theorem isServed (state : σ) (query : Query) : IsServed
    (query, (cluster.answer state query).1) := by
  cases query with
  | getIndex index =>
    cases index with
    | str name =>
      cases hmapping : cluster.mappings state name with
      | none => exact .inr (cluster.misses state name hmapping)
      | some body => exact .inl (cluster.finds state name body hmapping)
    | _ => trivial
  | createIndex name body =>
    cases hmapping : cluster.mappings state name with
    | none => exact .inl (cluster.creates state name body hmapping).1
    | some old => exact .inr (cluster.refuses state name body old hmapping).1
  | bulk lines => exact cluster.accepts state lines
  | _ => trivial

/-- **What a request does to an index**: nothing, or it creates the index, which was missing. -/
theorem mapping_answer (state : σ) {name : String} {body : Option Value} {query : Query}
    (hasks : Asks name body query) :
    (cluster.mappings (cluster.answer state query).2 name = cluster.mappings state name
      ∧ creation? name (query, (cluster.answer state query).1) = none)
    ∨ (cluster.mappings state name = none
      ∧ cluster.mappings (cluster.answer state query).2 name = some body
      ∧ creation? name (query, (cluster.answer state query).1) = some body) := by
  cases hasks with
  | getIndex => exact .inl ⟨congrFun (cluster.keeps _ _ (by simp) (by simp)) name, rfl⟩
  | bulk lines => exact .inl ⟨congrFun (cluster.keeps _ _ (by simp) (by simp)) name, rfl⟩
  -- Only a creation can change the mapping, and it does so if there was none.
  | createIndex =>
    cases hmapping : cluster.mappings state name with
    | none =>
      obtain ⟨⟨v, hanswer⟩, hupdate⟩ := cluster.creates state name body hmapping
      refine .inr ⟨rfl, ?_, ?_⟩
      · rw [hupdate, Function.update_self]
      · rw [hanswer, creation?, if_pos rfl]
    | some old =>
      obtain ⟨⟨failure, hanswer, -⟩, hkept⟩ := cluster.refuses state name body old hmapping
      refine .inl ⟨?_, ?_⟩
      · rw [hkept, hmapping]
      · rw [hanswer]
        rfl

/-- An index that is there stays. -/
theorem isSome_answer (state : σ) {name : String} {body : Option Value} {query : Query}
    (hasks : Asks name body query) (hthere : (cluster.mappings state name).isSome) :
    (cluster.mappings (cluster.answer state query).2 name).isSome := by
  rcases cluster.mapping_answer state hasks with ⟨hkept, -⟩ | ⟨-, hcreated, -⟩
  · rw [hkept]
    exact hthere
  · rw [hcreated]
    rfl

/-- An index that is seen to be there is there. -/
theorem isSome_of_showsThere (state : σ) {name : String} {body : Option Value} {query : Query}
    (hasks : Asks name body query)
    (hshows : ShowsThere name (query, (cluster.answer state query).1)) :
    (cluster.mappings (cluster.answer state query).2 name).isSome := by
  cases hmapping : cluster.mappings state name with
  | some old => exact cluster.isSome_answer state hasks (by rw [hmapping]; rfl)
  | none =>
    rcases hshows with ⟨v, heq⟩ | ⟨made, answer, heq, -⟩
    · -- The index was missing and cannot have been found.
      obtain ⟨rfl, hfound⟩ := Prod.mk.inj heq
      obtain ⟨failure, hmissed, -⟩ := cluster.misses state name hmapping
      rw [hmissed] at hfound
      cases hfound
    · obtain ⟨rfl, -⟩ := Prod.mk.inj heq
      rw [(cluster.creates state name made hmapping).2, Function.update_self]
      rfl

end Cluster

/-! ### Races -/

/-- Calls that run at the same time, as a schedule says. -/
def race (cluster : Cluster σ) (name : String) (calls : List Call) (state : σ)
    (schedule : List Nat) : Pool σ (Option Bool) :=
  (Pool.start (calls.map (Call.program name)) state).run cluster.toSurroundings schedule

/-- The creations of an index in a log: who created it, and with which body. -/
def creations (name : String) (log : List (Nat × Exchange)) : List (Nat × Option Value) :=
  log.filterMap fun entry => (creation? name entry.2).map fun body => (entry.1, body)

/-- Whoever created an index had an exchange that created it. -/
theorem mem_creations_iff {name : String} {log : List (Nat × Exchange)} {i : Nat}
    {body : Option Value} :
    (i, body) ∈ creations name log
      ↔ ∃ v, (.createIndex name body, .ok v) ∈ exchangesOf i log := by
  simp only [creations, List.mem_filterMap, Option.map_eq_some_iff, creation?_eq_some_iff,
    mem_exchangesOf_iff]
  constructor
  · rintro ⟨⟨j, exchange⟩, hmem, made, ⟨v, rfl⟩, heq⟩
    cases heq
    exact ⟨v, hmem⟩
  · rintro ⟨v, hmem⟩
    exact ⟨_, hmem, body, ⟨v, rfl⟩, rfl⟩

/-- The creations in a log that has grown by an exchange. -/
theorem creations_append_singleton (name : String) (log : List (Nat × Exchange)) (i : Nat)
    (exchange : Exchange) :
    creations name (log ++ [(i, exchange)])
      = creations name log ++ ((creation? name exchange).map fun body => (i, body)).toList := by
  rw [creations, creations, List.filterMap_append]
  cases hmade : creation? name exchange <;> simp [hmade]

/-- **Made once.** The index is as it was, or it was missing and there was one creation. -/
inductive MadeOnce (before : Option (Option Value)) :
    List (Nat × Option Value) → Option (Option Value) → Prop where
  | unchanged : MadeOnce before [] before
  | created (i : Nat) (body : Option Value) (hmissing : before = none) :
      MadeOnce before [(i, body)] (some body)

/-- An index that is missing still can be created. -/
theorem MadeOnce.create {before : Option (Option Value)} {made : List (Nat × Option Value)}
    (h : MadeOnce before made none) (i : Nat) (body : Option Value) :
    MadeOnce before (made ++ [(i, body)]) (some body) := by
  cases h with
  | unchanged => exact .created i body rfl

/-- An index that was there is as it was. -/
theorem MadeOnce.of_isSome {before now : Option (Option Value)} {made : List (Nat × Option Value)}
    (h : MadeOnce before made now) (hthere : before.isSome) : made = [] ∧ now = before := by
  cases h with
  | unchanged => exact ⟨rfl, rfl⟩
  | created i body hmissing =>
    rw [hmissing] at hthere
    cases hthere

/-- An index that was missing and is there now was created. -/
theorem MadeOnce.exists_of_isSome {now : Option (Option Value)} {made : List (Nat × Option Value)}
    (h : MadeOnce none made now) (hthere : now.isSome) :
    ∃ i body, made = [(i, body)] ∧ now = some body := by
  cases h with
  | unchanged => cases hthere
  | created i body => exact ⟨i, body, rfl, rfl⟩

/-- **What is true of a race all along.** The calls follow their exchanges, in which all was served.
    The index was made at most once, and is there once it was seen to be. -/
structure Consistent (cluster : Cluster σ) (name : String) (calls : List Call) (state : σ)
    (pool : Pool σ (Option Bool)) : Prop where
  follows : Pool.Follows (calls.map (Call.program name)) pool
  served : ∀ entry ∈ pool.log, IsServed entry.2
  madeOnce : MadeOnce (cluster.mappings state name) (creations name pool.log)
    (cluster.mappings pool.state name)
  seen : ∀ entry ∈ pool.log, ShowsThere name entry.2 →
    (cluster.mappings pool.state name).isSome

namespace Consistent

variable {cluster : Cluster σ} {name : String} {calls : List Call} {state : σ}
  {pool : Pool σ (Option Bool)}

/-- What is left of a call is where its exchanges lead. -/
theorem exists_call (h : Consistent cluster name calls state pool) {i : Nat}
    {p : Program (Option Bool)} (hp : pool.programs[i]? = some p) :
    ∃ call, calls[i]? = some call
      ∧ (call.program name).LeadsTo (exchangesOf i pool.log) p := by
  have hlt : i < calls.length := by
    have hlt := (List.getElem?_eq_some_iff.1 hp).1
    rwa [h.follows.length_eq, List.length_map] at hlt
  obtain ⟨q, hq, hleads⟩ := h.follows.leads i (calls[i].program name) (by simp [hlt])
  rw [hp, Option.some.injEq] at hq
  exact ⟨calls[i], List.getElem?_eq_getElem hlt, hq ▸ hleads⟩

/-- A call that asks for something has begun an attempt. -/
theorem exists_attempt (h : Consistent cluster name calls state pool) (hname : name ≠ "")
    (hvalid : ∀ call ∈ calls, call.IsValid name) {i : Nat} {query : Query}
    {next : Except Failure Value → Program (Option Bool)}
    (hp : pool.programs[i]? = some (.ask query next)) (answer : Except Failure Value) :
    ∃ (call : Call) (rest : List Exchange) (attempted : Except Error Bool),
      Attempt name call.body (exchangesOf i pool.log ++ (query, answer) :: rest) attempted := by
  obtain ⟨call, hcall, hleads⟩ := h.exists_call hp
  obtain ⟨rest, outcome, hrest⟩ := (next answer).exists_hasTranscript
  obtain ⟨attempted, hattempt, -⟩ := Call.exists_attempt hname
    (hvalid call (List.mem_of_getElem? hcall)) (hleads _ _ (.ask answer hrest))
  exact ⟨call, rest, attempted, hattempt⟩

/-- A race that has not begun. -/
theorem start (cluster : Cluster σ) (name : String) (calls : List Call) (state : σ) :
    Consistent cluster name calls state (.start (calls.map (Call.program name)) state) where
  follows := Pool.follows_run cluster.toSurroundings _ state []
  served _ hmem := nomatch hmem
  madeOnce := .unchanged
  seen _ hmem := nomatch hmem

/-- **Each step leaves a race consistent.** -/
theorem step (h : Consistent cluster name calls state pool) (hname : name ≠ "")
    (hvalid : ∀ call ∈ calls, call.IsValid name) {i : Nat} {later : Pool σ (Option Bool)}
    (hstep : pool.Steps cluster.toSurroundings i later) :
    Consistent cluster name calls state later := by
  have hfollows := h.follows.step hstep
  cases hstep with
  | idle => exact h
  | silent hp hleads => exact ⟨hfollows, h.served, h.madeOnce, h.seen⟩
  | @asked query next hp =>
    -- Whatever the answer is, the request belongs to an attempt.
    obtain ⟨call, rest, attempted, hattempt⟩ := h.exists_attempt hname hvalid hp (.ok .null)
    have hasks : Asks name call.body query :=
      hattempt.asks (query, .ok .null) (List.mem_append_right _ List.mem_cons_self)
    refine ⟨hfollows, ?_, ?_, ?_⟩
    · refine List.forall_mem_append.2 ⟨h.served, fun entry hmem => ?_⟩
      rw [List.mem_singleton.1 hmem]
      exact cluster.isServed pool.state query
    · rw [creations_append_singleton]
      rcases cluster.mapping_answer pool.state hasks with ⟨hkept, hnone⟩ | ⟨hwas, hnow, hsome⟩
      · rw [hkept, hnone, Option.map_none, Option.toList_none, List.append_nil]
        exact h.madeOnce
      · rw [hnow, hsome]
        exact (hwas ▸ h.madeOnce).create i call.body
    · refine List.forall_mem_append.2 ⟨fun entry hmem hshows => ?_, fun entry hmem hshows => ?_⟩
      · exact cluster.isSome_answer pool.state hasks (h.seen entry hmem hshows)
      · rw [List.mem_singleton.1 hmem] at hshows
        exact cluster.isSome_of_showsThere pool.state hasks hshows

/-- No call has failed. -/
theorem ne_fail (h : Consistent cluster name calls state pool) (hname : name ≠ "")
    (hvalid : ∀ call ∈ calls, call.IsValid name) {p : Program (Option Bool)}
    (hmem : p ∈ pool.programs) (error : Error) : p ≠ .fail error := by
  rintro rfl
  obtain ⟨i, hi⟩ := List.getElem?_of_mem hmem
  obtain ⟨call, hcall, hleads⟩ := h.exists_call hi
  obtain ⟨attempted, hattempt, heq⟩ := Call.exists_attempt hname
    (hvalid call (List.mem_of_getElem? hcall)) hleads.hasTranscript_fail
  cases attempted with
  | ok created => cases heq
  | error problem =>
    -- An attempt fails by a request that was not served, but all were.
    obtain ⟨exchange, hexchange, hnot⟩ := hattempt.fails problem rfl
    exact hnot (h.served _ (mem_exchangesOf_iff.1 hexchange))

/-- Documents are sent only when the index is there. -/
theorem isSome_of_bulk (h : Consistent cluster name calls state pool) (hname : name ≠ "")
    (hvalid : ∀ call ∈ calls, call.IsValid name) {lines : List Value}
    {next : Except Failure Value → Program (Option Bool)}
    (hmem : .ask (.bulk lines) next ∈ pool.programs) :
    (cluster.mappings pool.state name).isSome := by
  obtain ⟨i, hi⟩ := List.getElem?_of_mem hmem
  obtain ⟨call, rest, attempted, hattempt⟩ := h.exists_attempt hname hvalid hi (.ok .null)
  obtain ⟨exchange, hexchange, hshows⟩ := hattempt.sends _ lines _ rest rfl
  exact h.seen _ (mem_exchangesOf_iff.1 hexchange) hshows

/-- A call that has ended has the result of an attempt that went well. -/
theorem exists_result (h : Consistent cluster name calls state pool) (hname : name ≠ "")
    (hvalid : ∀ call ∈ calls, call.IsValid name) (hcomplete : pool.IsComplete) {i : Nat}
    {call : Call} (hcall : calls[i]? = some call) :
    ∃ created, pool.programs[i]? = some (.done (call.result created))
      ∧ Attempt name call.body (exchangesOf i pool.log) (.ok created) := by
  obtain ⟨p, hp, hleads⟩ := h.follows.leads i (call.program name) (by simp [hcall])
  rcases hcomplete p (List.mem_of_getElem? hp) with ⟨result, rfl⟩ | ⟨error, rfl⟩
  · obtain ⟨attempted, hattempt, heq⟩ := Call.exists_attempt hname
      (hvalid call (List.mem_of_getElem? hcall)) hleads.hasTranscript_done
    cases attempted with
    | error problem => cases heq
    | ok created =>
      cases heq
      exact ⟨created, hp, hattempt⟩
  · exact absurd rfl (h.ne_fail hname hvalid (List.mem_of_getElem? hp) error)

/-- If the results of all calls are known, so are the programs of a complete race. -/
theorem programs_eq_mapIdx (h : Consistent cluster name calls state pool) {created : Nat → Bool}
    (hresult : ∀ (i : Nat) (call : Call), calls[i]? = some call →
      pool.programs[i]? = some (Program.done (call.result (created i)))) :
    pool.programs = calls.mapIdx fun i call => Program.done (call.result (created i)) := by
  refine List.ext_getElem? fun i => ?_
  rw [List.getElem?_mapIdx]
  cases hcall : calls[i]? with
  | none =>
    have hle : pool.programs.length ≤ i := by
      rw [h.follows.length_eq, List.length_map]
      exact List.getElem?_eq_none_iff.1 hcall
    rw [List.getElem?_eq_none hle, Option.map_none]
  | some call => rw [hresult i call hcall, Option.map_some]

/-- An index that was there has been created by nobody. -/
theorem of_isSome (h : Consistent cluster name calls state pool) (hname : name ≠ "")
    (hvalid : ∀ call ∈ calls, call.IsValid name) (hcomplete : pool.IsComplete)
    (hthere : (cluster.mappings state name).isSome) :
    creations name pool.log = []
      ∧ cluster.mappings pool.state name = cluster.mappings state name
      ∧ pool.programs = calls.mapIdx fun _ call => .done (call.result false) := by
  obtain ⟨hlog, hnow⟩ := h.madeOnce.of_isSome hthere
  refine ⟨hlog, hnow, h.programs_eq_mapIdx fun i call hcall => ?_⟩
  obtain ⟨created, hp, hattempt⟩ := h.exists_result hname hvalid hcomplete hcall
  cases created with
  | false => exact hp
  | true =>
    have hmem := mem_creations_iff.2 ((hattempt.creates true rfl).1 rfl)
    rw [hlog] at hmem
    cases hmem

/-- An index that was missing has been created by one call, unless there was none. -/
theorem of_eq_none (h : Consistent cluster name calls state pool) (hname : name ≠ "")
    (hvalid : ∀ call ∈ calls, call.IsValid name) (hcomplete : pool.IsComplete)
    (hmissing : cluster.mappings state name = none) (hcalls : calls ≠ []) :
    ∃ winner call, calls[winner]? = some call
      ∧ creations name pool.log = [(winner, call.body)]
      ∧ cluster.mappings pool.state name = some call.body
      ∧ pool.programs
        = calls.mapIdx fun i call => .done (call.result (decide (i = winner))) := by
  -- The first call has seen the index, which is there, so that it was created.
  have hthere : (cluster.mappings pool.state name).isSome := by
    obtain ⟨first, rest, rfl⟩ := List.exists_cons_of_ne_nil hcalls
    obtain ⟨created, -, hattempt⟩ := h.exists_result hname hvalid hcomplete (i := 0) rfl
    obtain ⟨exchange, hexchange, hshows⟩ := hattempt.sees created rfl
    exact h.seen _ (mem_exchangesOf_iff.1 hexchange) hshows
  have hmade := h.madeOnce
  rw [hmissing] at hmade
  obtain ⟨winner, body, hlog, hnow⟩ := hmade.exists_of_isSome hthere
  -- The one creation is that of a call, with its body.
  have hmem : ∀ i other, (i, other) ∈ creations name pool.log ↔ i = winner ∧ other = body := by
    simp [hlog]
  obtain ⟨v, hcreated⟩ := mem_creations_iff.1 ((hmem winner body).2 ⟨rfl, rfl⟩)
  have hlt : winner < calls.length := by
    simpa using h.follows.place_lt _ (mem_exchangesOf_iff.1 hcreated)
  have hwinner : calls[winner]? = some calls[winner] := List.getElem?_eq_getElem hlt
  have hbody : body = calls[winner].body := by
    obtain ⟨_, -, hattempt⟩ := h.exists_result hname hvalid hcomplete hwinner
    cases hattempt.asks _ hcreated
    rfl
  refine ⟨winner, calls[winner], hwinner, hbody ▸ hlog, hbody ▸ hnow, ?_⟩
  -- Another call that had created the index would be the winner too.
  refine h.programs_eq_mapIdx fun i call hcall => ?_
  obtain ⟨created, hp, hattempt⟩ := h.exists_result hname hvalid hcomplete hcall
  have hiff : created = true ↔ i = winner := by
    rw [hattempt.creates created rfl, ← mem_creations_iff, hmem]
    refine ⟨And.left, fun heq => ⟨heq, ?_⟩⟩
    rw [heq, hwinner, Option.some.injEq] at hcall
    rw [hbody, hcall]
  have hdecide : created = decide (i = winner) := by
    rw [Bool.eq_iff_iff, hiff, decide_eq_true_eq]
  rw [hp, hdecide]

end Consistent

/-- A race is consistent in every interleaving. -/
theorem consistent_race (cluster : Cluster σ) {name : String} (hname : name ≠ "")
    {calls : List Call} (hvalid : ∀ call ∈ calls, call.IsValid name) (state : σ)
    (schedule : List Nat) :
    Consistent cluster name calls state (race cluster name calls state schedule) :=
  Pool.run_preserves (fun _ _ _ h hstep => h.step hname hvalid hstep)
    (Consistent.start cluster name calls state) schedule

/-- **A race has one creator.** Calls that want an index run at the same time, in any interleaving
    of their requests. At no time has a call failed, documents are sent only when the index is
    there, and the race can go on until all calls have ended. When they have, an index that was
    there at first is as it was, and nobody created it. If it was missing, one of the calls created
    it, and it has the body of that one. Each call tells whether it was the creator, unless it is an
    update, which has no result. -/
theorem race_has_one_creator (cluster : Cluster σ) (name : String) (hname : name ≠ "")
    (calls : List Call) (hvalid : ∀ call ∈ calls, call.IsValid name) (state : σ)
    (schedule : List Nat) :
    (∀ error, .fail error ∉ (race cluster name calls state schedule).programs)
      ∧ (∀ lines next, .ask (.bulk lines) next ∈ (race cluster name calls state schedule).programs →
        (cluster.mappings (race cluster name calls state schedule).state name).isSome)
      ∧ (∃ more, (race cluster name calls state (schedule ++ more)).IsComplete)
      ∧ ((race cluster name calls state schedule).IsComplete →
        ((cluster.mappings state name).isSome →
          creations name (race cluster name calls state schedule).log = []
            ∧ cluster.mappings (race cluster name calls state schedule).state name
              = cluster.mappings state name
            ∧ (race cluster name calls state schedule).programs
              = calls.mapIdx fun _ call => .done (call.result false))
        ∧ (cluster.mappings state name = none → calls ≠ [] →
          ∃ winner call, calls[winner]? = some call
            ∧ creations name (race cluster name calls state schedule).log = [(winner, call.body)]
            ∧ cluster.mappings (race cluster name calls state schedule).state name = some call.body
            ∧ (race cluster name calls state schedule).programs
              = calls.mapIdx fun i call => .done (call.result (decide (i = winner))))) := by
  -- All but the first half of the end is read off the invariant; that a race can be completed holds
  -- for any pool.
  have hrace := consistent_race cluster hname hvalid state schedule
  refine ⟨fun error hmem => hrace.ne_fail hname hvalid hmem error rfl,
    fun lines next => hrace.isSome_of_bulk hname hvalid, ?_, fun hcomplete =>
      ⟨hrace.of_isSome hname hvalid hcomplete, hrace.of_eq_none hname hvalid hcomplete⟩⟩
  obtain ⟨more, hmore⟩ := Pool.exists_isComplete_run cluster.toSurroundings
    (race cluster name calls state schedule)
  refine ⟨more, ?_⟩
  rw [race, Pool.run_append]
  exact hmore

/-- A cluster whose state are its indices. -/
def registry : Cluster (String → Option (Option Value)) where
  answer indices query :=
    match query with
    | .getIndex (.str name) =>
      match indices name with
      | some _ => (.ok (.mapping []), indices)
      | none => (.error ⟨.backend .notFound, [], []⟩, indices)
    | .createIndex name body =>
      match indices name with
      | some _ => (.error ⟨.backend .request, [.int 400, .str Failure.alreadyExists], []⟩, indices)
      | none => (.ok (.mapping []), Function.update indices name (some body))
    | _ => (.ok (.mapping []), indices)
  resolve _ _ := .ok (.records [])
  mappings := id
  finds indices name body hfound := by
    rw [id_eq] at hfound
    dsimp only
    rw [hfound]
    exact ⟨_, rfl⟩
  misses indices name hmissing := by
    rw [id_eq] at hmissing
    dsimp only
    rw [hmissing]
    exact ⟨_, rfl, rfl⟩
  creates indices name body hmissing := by
    rw [id_eq] at hmissing
    dsimp only
    rw [hmissing]
    exact ⟨⟨_, rfl⟩, rfl⟩
  refuses indices name body old hfound := by
    rw [id_eq] at hfound
    dsimp only
    rw [hfound]
    exact ⟨⟨_, rfl, rfl⟩, rfl⟩
  accepts indices lines := ⟨_, _, rfl, rfl, rfl⟩
  keeps indices query hcreate hdelete := by
    cases query with
    | createIndex name body => exact absurd rfl (hcreate name body)
    | getIndex index =>
      cases index with
      | str name =>
        dsimp only
        cases indices name <;> rfl
      | _ => rfl
    | _ => rfl

/-- Three callers that want the index of notes; the last one writes a note. -/
def noteCalls : List Call := [.ensure .null, .create .null, .update milkNote []]

/-- The first and the last caller miss the index, and the last one is the first to create it. -/
def noteSchedule : List Nat := [0, 2, 2, 2, 0, 0, 0, 1, 1, 2, 2, 2]

/-- The callers race for the index of notes, and one of them has created it. -/
theorem noteCalls_race :
    "notes" ≠ "" ∧ (∀ call ∈ noteCalls, call.IsValid "notes")
      ∧ (race registry "notes" noteCalls (fun _ => none) noteSchedule).programs
        = [.done (some false), .done (some false), .done none]
      ∧ ∃ winner call, noteCalls[winner]? = some call
        ∧ creations "notes" (race registry "notes" noteCalls (fun _ => none) noteSchedule).log
          = [(winner, call.body)] := by
  have hensure : (Call.ensure .null).IsValid "notes" := ⟨.inl rfl, trivial⟩
  have hcreate : (Call.create .null).IsValid "notes" := ⟨.inl rfl, trivial⟩
  have hlines : milkNote.settingLines? ≠ none := Option.some_ne_none _
  have hupdate : (Call.update milkNote []).IsValid "notes" :=
    ⟨.inr ⟨_, rfl⟩, rfl, List.forall_mem_singleton.2 hlines⟩
  have hvalid : ∀ call ∈ noteCalls, call.IsValid "notes" := by
    simp [noteCalls, hensure, hcreate, hupdate]
  have hprograms : (race registry "notes" noteCalls (fun _ => none) noteSchedule).programs
      = [.done (some false), .done (some false), .done none] := rfl
  have hcomplete : (race registry "notes" noteCalls (fun _ => none) noteSchedule).IsComplete := by
    rw [Pool.IsComplete, hprograms]
    simp [Program.IsEnded]
  obtain ⟨-, -, -, hended⟩ := race_has_one_creator registry "notes" (by decide) noteCalls hvalid
    (fun _ => none) noteSchedule
  obtain ⟨winner, call, hwinner, hcreations, -⟩ := (hended hcomplete).2 rfl (by simp [noteCalls])
  exact ⟨by decide, hvalid, hprograms, winner, call, hwinner, hcreations⟩

end RecordSearch
