import RecordSearch.Program

namespace RecordSearch

/-!
# Exchanges with the backend

The events of a run tell what was asked of the backend, but not what it answered. An exchange
is a request with its answer, and `Program.exchanges` are those of a run, in their order. Their
requests are events of the run (`Program.exchanges_sublist_events`), and those of a continuation
come after those of what it continues (`Program.exchanges_bind`).
-/

/-- A request to the backend with its answer. -/
abbrev Exchange := Query × Except Failure Value

namespace Program

variable {σ α β : Type}

/-- The requests to the backend in a run, each with its answer. -/
def exchanges (surroundings : Surroundings σ) : Program α → σ → List Exchange
  | .done _, _ => []
  | .fail _, _ => []
  | .tell _ next, state => next.exchanges surroundings state
  | .ask query next, state =>
    let answered := surroundings.answer state query
    (query, answered.1) :: (next answered.1).exchanges surroundings answered.2
  | .resolve type ids next, state =>
    (next (surroundings.resolve type ids)).exchanges surroundings state

/-- The requests of the exchanges are events of the run, in the same order. -/
theorem exchanges_sublist_events (surroundings : Surroundings σ) (p : Program α) (state : σ) :
    List.Sublist ((p.exchanges surroundings state).map fun exchange => Event.query exchange.1)
      (p.run surroundings state).events := by
  induction p generalizing state with
  | done a => exact List.nil_sublist _
  | fail e => exact List.nil_sublist _
  | tell event next ih => exact (ih state).cons event
  | ask query next ih => exact (ih _ _).cons_cons (.query query)
  | resolve type ids next ih => exact (ih _ state).cons (.resolve type ids)

/-- What a program with a result is continued by decides the outcome. -/
theorem outcome_bind (surroundings : Surroundings σ) {p : Program α} {f : α → Program β}
    {state : σ} {a : α} (h : (p.run surroundings state).outcome = .ok a) :
    ((p >>= f).run surroundings state).outcome =
      ((f a).run surroundings (p.run surroundings state).state).outcome := by
  rw [run_bind]
  rcases hrun : p.run surroundings state with ⟨outcome, events, later⟩
  rw [hrun] at h
  cases h
  rfl

/-- The exchanges of a continuation come after those of what it continues. After an error there
    are none. -/
theorem exchanges_bind (surroundings : Surroundings σ) (p : Program α) (f : α → Program β)
    (state : σ) :
    (p >>= f).exchanges surroundings state = p.exchanges surroundings state ++
      match p.run surroundings state with
      | ⟨.ok a, _, later⟩ => (f a).exchanges surroundings later
      | ⟨.error _, _, _⟩ => [] := by
  induction p generalizing state with
  | done a => rfl
  | fail e => rfl
  | tell event next ih =>
    rw [tell_bind, exchanges, exchanges, ih, run]
    -- The run is taken apart, because what follows depends on its outcome.
    rcases next.run surroundings state with ⟨outcome, events, later⟩
    cases outcome <;> rfl
  | ask query next ih =>
    simp only [ask_bind, exchanges, ih, run, List.cons_append]
    rcases (next _).run surroundings _ with ⟨outcome, events, later⟩
    cases outcome <;> rfl
  | resolve type ids next ih =>
    rw [resolve_bind, exchanges, exchanges, ih, run]
    rcases (next (surroundings.resolve type ids)).run surroundings state with
      ⟨outcome, events, later⟩
    cases outcome <;> rfl

/-- The result of a computation is had without any exchange. -/
@[simp] theorem exchanges_ofExcept (surroundings : Surroundings σ) (result : Except Error α)
    (state : σ) : (ofExcept result).exchanges surroundings state = [] := by
  cases result with
  | ok a => rfl
  | error e => rfl

/-- A failure that is met ends a program with an error. -/
theorem exists_failWith_eq (failure : Failure) (error : String → Error) :
    ∃ e, (failWith failure error : Program α) = .fail e := by
  rw [failWith]
  by_cases h : failure.isBackend = true
  · rw [if_pos h]
    cases failure.text with
    | ok reason => exact ⟨_, rfl⟩
    | error problem => exact ⟨_, rfl⟩
  · rw [if_neg h]
    exact ⟨_, rfl⟩

/-- A failure is met without any exchange. -/
@[simp] theorem exchanges_failWith (surroundings : Surroundings σ) (failure : Failure)
    (error : String → Error) (state : σ) :
    (failWith failure error : Program α).exchanges surroundings state = [] := by
  obtain ⟨e, he⟩ := exists_failWith_eq (α := α) failure error
  rw [he, exchanges]

/-- A failure that is met ends the run with an error. -/
theorem outcome_failWith_ne_ok (surroundings : Surroundings σ) (failure : Failure)
    (error : String → Error) (state : σ) (a : α) :
    ((failWith failure error : Program α).run surroundings state).outcome ≠ .ok a := by
  obtain ⟨e, he⟩ := exists_failWith_eq (α := α) failure error
  rw [he, run]
  intro h
  cases h

end Program

end RecordSearch
