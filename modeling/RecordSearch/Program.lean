import RecordSearch.Event

namespace RecordSearch

/-!
# Programs

An operation of the library is a program: a finite tree of requests whose continuations take
the answers. The same program can be run against any surroundings, one request at a time, so
that runs of several programs can be interleaved.

* `Program`: a monad of requests, events and errors;
* `Client`: what requests are sent through, of which an engine has its own;
* `Surroundings`: what answers requests, with a state of its own;
* `Program.run`: a run from start to end, with its events in order.
-/

/-- What a record store holds under an identity: a record, or nothing or any other value. -/
inductive Item where
  | record (record : Record)
  | value (v : Value)

/-- What a record store answers with: items by identity, or records in any order. -/
inductive Resolution where
  | entries (entries : List (Value × Item))
  | records (records : List Record)

/-- A program with a result of type `α`. -/
inductive Program (α : Type) where
  | done (result : α)
  | fail (error : Error)
  | tell (event : Event) (next : Program α)
  | ask (query : Query) (next : Except Failure Value → Program α)
  | resolve (type : RecordType) (ids : List Value) (next : Except Failure Resolution → Program α)

namespace Program

variable {α β : Type}

/-- Continues with the result of a program. -/
def bind : Program α → (α → Program β) → Program β
  | .done a, f => f a
  | .fail e, _ => .fail e
  | .tell event next, f => .tell event (next.bind f)
  | .ask query next, f => .ask query fun answer => (next answer).bind f
  | .resolve type ids next, f => .resolve type ids fun answer => (next answer).bind f

instance : Monad Program where
  pure := .done
  bind := bind

@[simp] theorem pure_eq (a : α) : (pure a : Program α) = .done a := rfl

@[simp] theorem done_bind (a : α) (f : α → Program β) : (Program.done a >>= f) = f a := rfl

@[simp] theorem fail_bind (e : Error) (f : α → Program β) :
    (Program.fail e >>= f) = .fail e := rfl

@[simp] theorem tell_bind (event : Event) (next : Program α) (f : α → Program β) :
    (Program.tell event next >>= f) = .tell event (next >>= f) := rfl

@[simp] theorem ask_bind (query : Query) (next : Except Failure Value → Program α)
    (f : α → Program β) :
    (Program.ask query next >>= f) = .ask query fun answer => next answer >>= f := rfl

@[simp] theorem resolve_bind (type : RecordType) (ids : List Value)
    (next : Except Failure Resolution → Program α) (f : α → Program β) :
    (Program.resolve type ids next >>= f) = .resolve type ids fun answer => next answer >>= f :=
  rfl

theorem bind_done (p : Program α) : p.bind .done = p := by
  induction p with
  | done a => rfl
  | fail e => rfl
  | tell event next ih => simp [bind, ih]
  | ask query next ih => simp [bind, ih]
  | resolve type ids next ih => simp [bind, ih]

theorem bind_bind {γ : Type} (p : Program α) (f : α → Program β) (g : β → Program γ) :
    (p.bind f).bind g = p.bind fun a => (f a).bind g := by
  induction p with
  | done a => rfl
  | fail e => rfl
  | tell event next ih => simp [bind, ih]
  | ask query next ih => simp [bind, ih]
  | resolve type ids next ih => simp [bind, ih]

instance : LawfulMonad Program :=
  LawfulMonad.mk' Program (fun p => bind_done p) (fun _ _ => rfl) (fun p f g => bind_bind p f g)

/-- Logs a line. -/
def log (entry : LogEntry) : Program Unit := .tell (.log entry) (.done ())

/-- The result of a computation without requests. -/
def ofExcept : Except Error α → Program α
  | .ok a => .done a
  | .error e => .fail e

/-- The result of a check. -/
def ofChecked (checked : Checked α) : Program α := ofExcept checked.toExcept

/-- Ends with an error of the library that gives the text of a failure, if the failure comes
    from the backend; any other failure is passed on. -/
def failWith (failure : Failure) (error : (reason : String) → Error) : Program α :=
  if failure.isBackend then
    -- The text of a failure may fail to render in its turn.
    match failure.text with
    | .ok reason => .fail (error reason)
    | .error problem => .fail (.ofUnprintable problem)
  else .fail (.raised failure)

end Program

/-! ### Clients -/

/-- **A client** of a search backend: what requests are sent through. Clients are told apart by
    their numbers. -/
structure Client where
  number : Nat
  send : Query → Program (Except Failure Value)

namespace Client

/-- The own client of an engine. What is sent through it is a request of the program. -/
def own : Client := ⟨0, fun query => .ask query .done⟩

/-- The requests of a program are those that it sends through the own client. -/
theorem own_send_bind {α : Type} (query : Query) (next : Except Failure Value → Program α) :
    (own.send query >>= next) = .ask query next := rfl

end Client

/-- The call that an event is, with what is called and the arguments. A callback is called with a
    client, of which it is said whether it is the own one. -/
def Event.call? : Event → Option (List Value)
  | .query sent => some [.str sent.method, .mapping sent.namedArguments]
  | .callback client params =>
    some [.str "callback", .bool (client == Client.own.number), params.toValue]
  | .resolve type ids => some [.str "resolve_by_ids", .str type.name, .list ids]
  | .log _ => none

/-! ### Runs -/

/-- What answers the requests of a program. The backend has a state, the record store does
    not. -/
structure Surroundings (σ : Type) where
  answer : σ → Query → Except Failure Value × σ
  resolve : RecordType → List Value → Except Failure Resolution

/-- The end of a run: the result or the error, the events in order, and the state. -/
structure Ending (σ α : Type) where
  outcome : Except Error α
  events : List Event
  state : σ

namespace Program

variable {σ α β : Type}

/-- Runs a program from start to end. -/
def run (surroundings : Surroundings σ) : Program α → σ → Ending σ α
  | .done a, state => ⟨.ok a, [], state⟩
  | .fail e, state => ⟨.error e, [], state⟩
  | .tell event next, state =>
    let ending := next.run surroundings state
    { ending with events := event :: ending.events }
  | .ask query next, state =>
    let answered := surroundings.answer state query
    let ending := (next answered.1).run surroundings answered.2
    { ending with events := .query query :: ending.events }
  | .resolve type ids next, state =>
    let ending := (next (surroundings.resolve type ids)).run surroundings state
    { ending with events := .resolve type ids :: ending.events }

/-- The run of a continuation comes after the run of what it continues, and starts from the
    state that was left. After an error nothing runs. -/
theorem run_bind (surroundings : Surroundings σ) (p : Program α) (f : α → Program β)
    (state : σ) :
    (p >>= f).run surroundings state =
      match p.run surroundings state with
      | ⟨.ok a, events, state⟩ =>
        let ending := (f a).run surroundings state
        { ending with events := events ++ ending.events }
      | ⟨.error e, events, state⟩ => ⟨.error e, events, state⟩ := by
  induction p generalizing state with
  | done a => rfl
  | fail e => rfl
  | tell event next ih =>
    rw [tell_bind, run, run, ih]
    rcases next.run surroundings state with ⟨outcome, events, state⟩
    cases outcome <;> rfl
  | ask query next ih =>
    simp only [ask_bind, run, ih]
    rcases (next _).run surroundings _ with ⟨outcome, events, state⟩
    cases outcome <;> rfl
  | resolve type ids next ih =>
    rw [resolve_bind, run, run, ih]
    rcases (next (surroundings.resolve type ids)).run surroundings state with
      ⟨outcome, events, state⟩
    cases outcome <;> rfl

end Program

end RecordSearch
