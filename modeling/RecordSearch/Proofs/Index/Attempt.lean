import RecordSearch.Proofs.Write.Batch

namespace RecordSearch

/-!
# Attempts to have an index

Whoever makes sure of an index, creates it or writes to it wants it to be there. What such callers
do to that end is alike.

* `ShowsThere`: an exchange by which a caller sees that the index is there;
* `IsServed`: an exchange in which the backend did what it was asked for;
* `Attempt`: what a caller does, told by its exchanges.

Each way to have an index is an attempt: `Index.Creation.attempt`, `Index.Ensuring.attempt` and
`Updating.exists_attempt`.
-/

/-- The exchange shows that the index is there: it was found, or it was created then, or before. -/
def ShowsThere (name : String) (exchange : Exchange) : Prop :=
  (∃ v, exchange = (.getIndex (.str name), .ok v))
    ∨ ∃ body answer, exchange = (.createIndex name body, answer) ∧ IsThere answer

/-- The request was served: an index was found or missed, it is there after its creation, and
    documents were taken. -/
def IsServed : Exchange → Prop
  | (.getIndex (.str _), answer) =>
    (∃ v, answer = .ok v) ∨ ∃ failure, answer = .error failure ∧ failure.isNotFound = true
  | (.createIndex _ _, answer) => IsThere answer
  | (.bulk _, answer) => Accepted answer
  | _ => True

/-- What may be asked on the way to an index: whether it is there, that it is created with the given
    body, and that documents are taken. -/
inductive Asks (name : String) (body : Option Value) : Query → Prop where
  | getIndex : Asks name body (.getIndex (.str name))
  | createIndex : Asks name body (.createIndex name body)
  | bulk (lines : List Value) : Asks name body (.bulk lines)

/-- **An attempt to have an index**, with an outcome that tells whether it was created. No more is
    asked than that takes, and documents are sent only after the index was seen to be there. The
    attempt fails only if some request was not served. -/
structure Attempt (name : String) (body : Option Value) (exchanges : List Exchange)
    (outcome : Except Error Bool) : Prop where
  asks : ∀ exchange ∈ exchanges, Asks name body exchange.1
  fails : ∀ error, outcome = .error error → ∃ exchange ∈ exchanges, ¬ IsServed exchange
  creates : ∀ created, outcome = .ok created →
    (created = true ↔ ∃ v, (.createIndex name body, .ok v) ∈ exchanges)
  sees : ∀ created, outcome = .ok created → ∃ exchange ∈ exchanges, ShowsThere name exchange
  sends : ∀ before lines answer after, exchanges = before ++ (.bulk lines, answer) :: after →
    ∃ exchange ∈ before, ShowsThere name exchange

namespace Attempt

variable {name : String} {body : Option Value} {exchanges : List Exchange}
  {outcome : Except Error Bool}

/-- Without documents that are sent, it is enough to know the other parts of an attempt. -/
theorem of_asks
    (hasks : ∀ exchange ∈ exchanges, exchange.1 = .getIndex (.str name)
      ∨ exchange.1 = .createIndex name body)
    (hfails : ∀ error, outcome = .error error → ∃ exchange ∈ exchanges, ¬ IsServed exchange)
    (hcreates : ∀ created, outcome = .ok created →
      (created = true ↔ ∃ v, (.createIndex name body, .ok v) ∈ exchanges))
    (hsees : ∀ created, outcome = .ok created → ∃ exchange ∈ exchanges, ShowsThere name exchange) :
    Attempt name body exchanges outcome := by
  refine ⟨fun exchange hmem => ?_, hfails, hcreates, hsees, ?_⟩
  · rcases hasks exchange hmem with heq | heq <;> rw [heq]
    · exact .getIndex
    · exact .createIndex
  · rintro before lines answer after rfl
    rcases hasks _ (List.mem_append_right before List.mem_cons_self) with heq | heq <;> cases heq

/-- An attempt may begin with a request that does not find the index. -/
theorem cons_getIndex (h : Attempt name body exchanges outcome) (failure : Failure) :
    Attempt name body ((.getIndex (.str name), .error failure) :: exchanges) outcome where
  asks := List.forall_mem_cons.2 ⟨.getIndex, h.asks⟩
  fails error herror := by
    obtain ⟨exchange, hmem, hnot⟩ := h.fails error herror
    exact ⟨exchange, List.mem_cons_of_mem _ hmem, hnot⟩
  creates created hcreated := by
    rw [h.creates created hcreated]
    simp
  sees created hcreated := by
    obtain ⟨exchange, hmem, hshows⟩ := h.sees created hcreated
    exact ⟨exchange, List.mem_cons_of_mem _ hmem, hshows⟩
  sends before lines answer after heq := by
    -- The new exchange asks for the index and sends no documents.
    rcases List.cons_eq_append_iff.1 heq with ⟨-, hbulk⟩ | ⟨middle, rfl, hrest⟩
    · cases hbulk
    · obtain ⟨exchange, hmem, hshows⟩ := h.sends middle lines answer after hrest
      exact ⟨exchange, List.mem_cons_of_mem _ hmem, hshows⟩

/-- After an attempt that went well, documents may be sent. That decides how it ends. -/
theorem append_bulk {created : Bool} (h : Attempt name body exchanges (.ok created))
    (lines : List Value) {answer : Except Failure Value} {sent : Except Error Unit}
    (hends : sent = .ok () ↔ Accepted answer) :
    Attempt name body (exchanges ++ [(.bulk lines, answer)]) (sent.map fun _ => created) where
  asks := by
    refine List.forall_mem_append.2 ⟨h.asks, fun exchange hmem => ?_⟩
    rw [List.mem_singleton.1 hmem]
    exact .bulk lines
  fails error herror := by
    refine ⟨_, List.mem_append_right exchanges List.mem_cons_self, fun haccepted => ?_⟩
    rw [hends.2 haccepted] at herror
    cases herror
  creates other hother := by
    cases sent with
    | error error => cases hother
    | ok u =>
      cases hother
      rw [h.creates created rfl]
      simp
  sees other _ := by
    obtain ⟨exchange, hmem, hshows⟩ := h.sees created rfl
    exact ⟨exchange, List.mem_append_left _ hmem, hshows⟩
  sends before others reply after heq := by
    obtain ⟨exchange, hmem, hshows⟩ := h.sees created rfl
    -- Either all of the attempt comes before, or the documents are sent within it.
    rcases List.append_eq_append_iff.1 heq with ⟨between, rfl, -⟩ | ⟨between, rfl, hrest⟩
    · exact ⟨exchange, List.mem_append_left between hmem, hshows⟩
    · cases between with
      | nil => exact ⟨exchange, by simpa using hmem, hshows⟩
      | cons other between =>
        obtain ⟨rfl, -⟩ := List.cons.inj hrest
        exact h.sends before others reply between rfl

end Attempt

/-- To create an index is an attempt. -/
theorem Index.Creation.attempt {name : String} {body : Option Value} {exchanges : List Exchange}
    {outcome : Except Error Bool} (h : Index.Creation name body exchanges outcome) :
    Attempt name body exchanges outcome := by
  cases h with
  | created v =>
    refine .of_asks (by simp) (by simp) (by simp) fun created _ => ?_
    exact ⟨_, List.mem_cons_self, .inr ⟨body, _, rfl, .inl ⟨v, rfl⟩⟩⟩
  | alreadyThere hthere =>
    refine .of_asks (by simp) (by simp) (by simp) fun created _ => ?_
    exact ⟨_, List.mem_cons_self, .inr ⟨body, _, rfl, .inr ⟨_, rfl, hthere⟩⟩⟩
  | failed hnot error =>
    exact .of_asks (by simp) (by simp [IsServed, IsThere, hnot]) (by simp) (by simp)

/-- To make sure of an index is an attempt. -/
theorem Index.Ensuring.attempt {name : String} {body : Option Value} {exchanges : List Exchange}
    {outcome : Except Error Bool} (h : Index.Ensuring name body exchanges outcome) :
    Attempt name body exchanges outcome := by
  cases h with
  | found v =>
    refine .of_asks (by simp) (by simp) (by simp) fun created _ => ?_
    exact ⟨_, List.mem_cons_self, .inl ⟨v, rfl⟩⟩
  | missing hmissing hcreate => exact hcreate.attempt.cons_getIndex _
  | failed hfailed error =>
    exact .of_asks (by simp) (by simp [IsServed, hfailed]) (by simp) (by simp)

/-- To update records that can all be written is an attempt. -/
theorem Updating.exists_attempt {name : String} {body : Option Value} {records : List Record}
    {exchanges : List Exchange} {outcome : Except Error Unit}
    (h : Updating name body records exchanges outcome)
    (hlines : ∀ record ∈ records, record.settingLines? ≠ none) :
    ∃ attempted, Attempt name body exchanges attempted ∧ outcome = attempted.map fun _ => () := by
  cases h with
  | @refused exchanges error hindex => exact ⟨.error error, hindex.attempt, rfl⟩
  | @written first rest created outcome hindex hsending =>
    cases hsending with
    | unwritable hmem hnone error => exact absurd hnone (hlines _ hmem)
    | sent hgroups answer hends =>
      refine ⟨_, hindex.attempt.append_bulk _ hends, ?_⟩
      cases outcome <;> rfl

end RecordSearch
