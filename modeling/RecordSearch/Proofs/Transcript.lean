import RecordSearch.Proofs.Exchanges

namespace RecordSearch.Program

/-!
# Transcripts

A run depends on its surroundings only through the answers that they give. A transcript of a
program is what it may do with any answers at all: exchanges with the backend, in their order,
and the outcome to which they lead.

* `HasTranscript`: exchanges and an outcome that a program may have;
* `hasTranscript_run`: each run has one, so that what holds of all transcripts holds of all runs;
* `hasTranscript_bind`, `hasTranscript_map`: a transcript of a continuation taken apart;
* `LeadsTo`: exchanges that lead from a program to what is left of it.

A run that is interrupted by those of other programs has a transcript too, though no
surroundings of its own.
-/

variable {σ α β : Type}

/-- **A transcript of a program**: its exchanges with the backend, whatever the answers in them
    are, and its outcome. -/
inductive HasTranscript : Program α → List Exchange → Except Error α → Prop where
  | done (a : α) : HasTranscript (.done a) [] (.ok a)
  | fail (e : Error) : HasTranscript (.fail e) [] (.error e)
  | tell {event : Event} {next : Program α} {exchanges : List Exchange} {outcome : Except Error α}
      (h : HasTranscript next exchanges outcome) :
      HasTranscript (.tell event next) exchanges outcome
  | ask {query : Query} {next : Except Failure Value → Program α} {exchanges : List Exchange}
      {outcome : Except Error α} (answer : Except Failure Value)
      (h : HasTranscript (next answer) exchanges outcome) :
      HasTranscript (.ask query next) ((query, answer) :: exchanges) outcome
  | resolve {type : RecordType} {ids : List Value}
      {next : Except Failure Resolution → Program α} {exchanges : List Exchange}
      {outcome : Except Error α} (answer : Except Failure Resolution)
      (h : HasTranscript (next answer) exchanges outcome) :
      HasTranscript (.resolve type ids next) exchanges outcome

/-- The exchanges and the outcome of a run are a transcript. -/
theorem hasTranscript_run (surroundings : Surroundings σ) (p : Program α) (state : σ) :
    p.HasTranscript (p.exchanges surroundings state) (p.run surroundings state).outcome := by
  induction p generalizing state with
  | done a => exact .done a
  | fail e => exact .fail e
  | tell event next ih => exact .tell (ih state)
  | ask query next ih => exact .ask _ (ih _ _)
  | resolve type ids next ih => exact .resolve _ (ih _ state)

/-- Every program has a transcript: whatever it asks, it comes to an end. -/
theorem exists_hasTranscript (p : Program α) :
    ∃ exchanges outcome, p.HasTranscript exchanges outcome := by
  induction p with
  | done a => exact ⟨[], .ok a, .done a⟩
  | fail e => exact ⟨[], .error e, .fail e⟩
  | tell event next ih =>
    obtain ⟨exchanges, outcome, h⟩ := ih
    exact ⟨exchanges, outcome, .tell h⟩
  | ask query next ih =>
    obtain ⟨exchanges, outcome, h⟩ := ih (.ok .null)
    exact ⟨_, outcome, .ask _ h⟩
  | resolve type ids next ih =>
    obtain ⟨exchanges, outcome, h⟩ := ih (.ok (.records []))
    exact ⟨exchanges, outcome, .resolve _ h⟩

/-- A program that is continued either ends with an error, and so does the whole, or has a
    result with which it goes on. -/
theorem hasTranscript_bind {p : Program α} {f : α → Program β} {exchanges : List Exchange}
    {outcome : Except Error β} (h : (p >>= f).HasTranscript exchanges outcome) :
    (∃ error, p.HasTranscript exchanges (.error error) ∧ outcome = .error error)
      ∨ ∃ a first rest, p.HasTranscript first (.ok a) ∧ (f a).HasTranscript rest outcome
        ∧ exchanges = first ++ rest := by
  -- The transcript is cut where the first program is done, so the induction is on that one.
  induction p generalizing exchanges with
  | done a => exact .inr ⟨a, [], exchanges, .done a, h, rfl⟩
  | fail e =>
    cases h
    exact .inl ⟨e, .fail e, rfl⟩
  | tell event next ih =>
    cases h with
    | tell hnext =>
      rcases ih hnext with ⟨error, herror, hends⟩ | ⟨a, first, rest, hfirst, hrest, heq⟩
      · exact .inl ⟨error, .tell herror, hends⟩
      · exact .inr ⟨a, first, rest, .tell hfirst, hrest, heq⟩
  | ask query next ih =>
    cases h with
    | ask answer hnext =>
      rcases ih answer hnext with ⟨error, herror, hends⟩ | ⟨a, first, rest, hfirst, hrest, rfl⟩
      · exact .inl ⟨error, .ask answer herror, hends⟩
      · exact .inr ⟨a, _, rest, .ask answer hfirst, hrest, rfl⟩
  | resolve type ids next ih =>
    cases h with
    | resolve answer hnext =>
      rcases ih answer hnext with ⟨error, herror, hends⟩ | ⟨a, first, rest, hfirst, hrest, heq⟩
      · exact .inl ⟨error, .resolve answer herror, hends⟩
      · exact .inr ⟨a, first, rest, .resolve answer hfirst, hrest, heq⟩

/-- A program whose result is changed has the exchanges that it had. -/
theorem hasTranscript_map {p : Program α} {f : α → β} {exchanges : List Exchange}
    {outcome : Except Error β} (h : (f <$> p).HasTranscript exchanges outcome) :
    ∃ before, p.HasTranscript exchanges before ∧ outcome = before.map f := by
  rw [map_eq_pure_bind] at h
  rcases hasTranscript_bind h with ⟨error, hfails, rfl⟩ | ⟨a, first, rest, hfirst, hrest, rfl⟩
  · exact ⟨.error error, hfails, rfl⟩
  · cases hrest
    rw [List.append_nil]
    exact ⟨.ok a, hfirst, rfl⟩

/-- A computation has its result without any exchange. -/
theorem hasTranscript_ofExcept {result : Except Error α} {exchanges : List Exchange}
    {outcome : Except Error α} (h : (ofExcept result).HasTranscript exchanges outcome) :
    exchanges = [] ∧ outcome = result := by
  cases result with
  | ok a =>
    cases h
    exact ⟨rfl, rfl⟩
  | error e =>
    cases h
    exact ⟨rfl, rfl⟩

/-- A failure is met without any exchange, and with an error. -/
theorem hasTranscript_failWith {failure : Failure} {error : String → Error}
    {exchanges : List Exchange} {outcome : Except Error α}
    (h : (failWith failure error : Program α).HasTranscript exchanges outcome) :
    exchanges = [] ∧ ∃ e, outcome = .error e := by
  obtain ⟨e, he⟩ := exists_failWith_eq (α := α) failure error
  rw [he] at h
  cases h
  exact ⟨rfl, e, rfl⟩

/-! ### What is left of a program -/

/-- The exchanges lead from one program to another: with what that may do after them they are a
    transcript. -/
def LeadsTo (p : Program α) (exchanges : List Exchange) (q : Program α) : Prop :=
  ∀ rest outcome, q.HasTranscript rest outcome → p.HasTranscript (exchanges ++ rest) outcome

/-- Before it has begun, all of a program is left. -/
theorem leadsTo_refl (p : Program α) : p.LeadsTo [] p := fun _ _ h => h

/-- What leads further is put after what led there. -/
theorem LeadsTo.trans {p q r : Program α} {first second : List Exchange}
    (hfirst : p.LeadsTo first q) (hsecond : q.LeadsTo second r) :
    p.LeadsTo (first ++ second) r := by
  intro rest outcome h
  rw [List.append_assoc]
  exact hfirst _ _ (hsecond _ _ h)

/-- Exchanges that lead to a result are a transcript with it. -/
theorem LeadsTo.hasTranscript_done {p : Program α} {exchanges : List Exchange} {a : α}
    (h : p.LeadsTo exchanges (.done a)) : p.HasTranscript exchanges (.ok a) := by
  simpa using h [] _ (.done a)

/-- Exchanges that lead to an error are a transcript with it. -/
theorem LeadsTo.hasTranscript_fail {p : Program α} {exchanges : List Exchange} {e : Error}
    (h : p.LeadsTo exchanges (.fail e)) : p.HasTranscript exchanges (.error e) := by
  simpa using h [] _ (.fail e)

end RecordSearch.Program
