import RecordSearch.Proofs.Requests

namespace RecordSearch

/-!
# Programs that do not interfere

Two requests are independent if neither changes what the other is answered, and if both leave the
same state in either order. This is a property of what surrounds programs, one pair of requests at a
time. It carries over to whole programs, whatever their requests depend on:

* `Surroundings.Independent`: two requests that do not interfere;
* `Program.run_after_answer`: a request is moved past a run, by induction on the program that runs;
* `Program.run_after_run`: a run is moved past a run, by induction on the other program.
-/

variable {σ : Type}

/-- **Independent requests.** Each is answered after the other as it is before it, and the order
    does not matter for the state that both leave. -/
structure Surroundings.Independent (surroundings : Surroundings σ) (a b : Query) : Prop where
  first : ∀ state, (surroundings.answer (surroundings.answer state b).2 a).1 =
    (surroundings.answer state a).1
  second : ∀ state, (surroundings.answer (surroundings.answer state a).2 b).1 =
    (surroundings.answer state b).1
  state : ∀ state, (surroundings.answer (surroundings.answer state a).2 b).2 =
    (surroundings.answer (surroundings.answer state b).2 a).2

namespace Surroundings.Independent

variable {surroundings : Surroundings σ} {a b : Query}

/-- Independence goes both ways. -/
theorem symm (h : surroundings.Independent a b) : surroundings.Independent b a :=
  ⟨h.second, h.first, fun state => (h.state state).symm⟩

/-- A request that is always met in one way, and leaves each state as it is, is independent of any
    other. -/
theorem of_fixed {answer : Except Failure Value}
    (h : ∀ state, surroundings.answer state a = (answer, state)) (b : Query) :
    surroundings.Independent a b := by
  constructor
  · intro state
    rw [h, h]
  · intro state
    rw [h]
  · intro state
    rw [h, h]

end Surroundings.Independent

namespace Program

variable {α β : Type} {surroundings : Surroundings σ}

/-- **A request before a run.** The run ends as it does without the request, but for the state, and
    the request is answered as it is after the run. -/
theorem run_after_answer {q : Program β} {a : Query}
    (h : q.EachRequest fun b _ => surroundings.Independent a b) (state : σ) :
    q.run surroundings (surroundings.answer state a).2 =
        { q.run surroundings state with
          state := (surroundings.answer (q.run surroundings state).state a).2 }
      ∧ (surroundings.answer (q.run surroundings state).state a).1 =
        (surroundings.answer state a).1 := by
  induction q generalizing state with
  | done b => exact ⟨rfl, rfl⟩
  | fail e => exact ⟨rfl, rfl⟩
  | tell event next ih =>
    obtain ⟨hrun, hanswer⟩ := ih h state
    exact ⟨by rw [run, run, hrun], hanswer⟩
  | ask b next ih =>
    obtain ⟨hindependent, hnext⟩ := h
    -- The request is moved past this one, and then past what the program does with the answer.
    have hmoved := ih (surroundings.answer state b).1 (hnext _) (surroundings.answer state b).2
    rw [← hindependent.state state, hindependent.first state] at hmoved
    obtain ⟨hrun, hanswer⟩ := hmoved
    rw [run, run, hindependent.second state, hrun]
    exact ⟨rfl, hanswer⟩
  | resolve type ids next ih =>
    obtain ⟨hrun, hanswer⟩ := ih (surroundings.resolve type ids) (h _) state
    exact ⟨by rw [run, run, hrun], hanswer⟩

/-- **A run before a run.** If the requests of two programs are independent, then each ends after
    the other as it does before it, but for the state, which is the same in either order. -/
theorem run_after_run {p : Program α} {q : Program β}
    (h : p.EachRequest fun a _ => q.EachRequest fun b _ => surroundings.Independent a b)
    (state : σ) :
    q.run surroundings (p.run surroundings state).state =
        { q.run surroundings state with
          state := (p.run surroundings (q.run surroundings state).state).state }
      ∧ p.run surroundings (q.run surroundings state).state =
        { p.run surroundings state with
          state := (q.run surroundings (p.run surroundings state).state).state } := by
  induction p generalizing state with
  | done a => exact ⟨rfl, rfl⟩
  | fail e => exact ⟨rfl, rfl⟩
  | tell event next ih =>
    obtain ⟨hsecond, hfirst⟩ := ih h state
    exact ⟨hsecond, by rw [run, run, hfirst]⟩
  | ask a next ih =>
    obtain ⟨hindependent, hnext⟩ := h
    obtain ⟨hrun, hanswer⟩ := run_after_answer hindependent state
    have hmoved := ih (surroundings.answer state a).1 (hnext _) (surroundings.answer state a).2
    -- Both runs of the second program start after the request; it is moved past them.
    rw [hrun] at hmoved
    obtain ⟨hsecond, hfirst⟩ := hmoved
    constructor
    · rw [run, run, hanswer]
      exact hsecond
    · rw [run, run, hanswer, hfirst]
  | resolve type ids next ih =>
    obtain ⟨hsecond, hfirst⟩ := ih (surroundings.resolve type ids) (h _) state
    exact ⟨hsecond, by rw [run, run, hfirst]⟩

end Program

end RecordSearch
