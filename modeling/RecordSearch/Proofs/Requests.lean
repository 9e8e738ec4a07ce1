import RecordSearch.Proofs.Checked
import RecordSearch.Proofs.Exchanges

namespace RecordSearch.Program

/-!
# What holds of each request

A program is a tree, and each request in it stands before what the program does with the answer.
A property of all these places is proved along the tree, one operation after the other, and then
holds at each request that a run makes.

* `EachRequest`: each request that a program may make has a property, together with what follows;
* `eachRequest_bind`: the requests of a continuation come after those of what it continues;
* `EachRequest.of_exchanges`: the request of an exchange in a run, with the rest of the run.
-/

variable {σ α β : Type}

/-- **Each request** that a program may make, whatever the answers are, has a property, together
    with what the program does with the answer to it. -/
def EachRequest (holds : Query → (Except Failure Value → Program α) → Prop) : Program α → Prop
  | .done _ => True
  | .fail _ => True
  | .tell _ next => next.EachRequest holds
  | .ask query next => holds query next ∧ ∀ answer, (next answer).EachRequest holds
  | .resolve _ _ next => ∀ answer, (next answer).EachRequest holds

variable {holds : Query → (Except Failure Value → Program α) → Prop}

/-- A failure is met without a request. -/
theorem eachRequest_failWith (failure : Failure) (error : String → Error) :
    (failWith failure error : Program α).EachRequest holds := by
  obtain ⟨e, he⟩ := exists_failWith_eq (α := α) failure error
  rw [he]
  trivial

/-- Each request has what follows from a property that each request has. -/
theorem EachRequest.imp {p : Program α} (hp : p.EachRequest holds)
    {weaker : Query → (Except Failure Value → Program α) → Prop}
    (h : ∀ query next, holds query next → weaker query next) : p.EachRequest weaker := by
  induction p with
  | done a => trivial
  | fail e => trivial
  | tell event next ih => exact ih hp
  | ask query next ih =>
    obtain ⟨hquery, hnext⟩ := hp
    exact ⟨h query next hquery, fun answer => ih answer (hnext answer)⟩
  | resolve type ids next ih => exact fun answer => ih answer (hp answer)

/-- After a computation the requests are those of what follows its result. -/
theorem eachRequest_ofExcept_bind {result : Except Error β} {f : β → Program α}
    (hf : ∀ b, result = .ok b → (f b).EachRequest holds) :
    (ofExcept result >>= f).EachRequest holds := by
  cases result with
  | ok b => exact hf b rfl
  | error e => trivial

/-- After a check the requests are those of what follows a value that passed it. -/
theorem eachRequest_ofChecked_bind {checked : Checked β} {f : β → Program α}
    (hf : ∀ b, checked = .valid b → (f b).EachRequest holds) :
    (ofChecked checked >>= f).EachRequest holds :=
  eachRequest_ofExcept_bind fun b hb => hf b (Checked.toExcept_eq_ok_iff.1 hb)

/-- The requests of a program that is continued are its own, which are then followed by the
    continuation too, and those of the continuation. -/
theorem eachRequest_bind {own : Query → (Except Failure Value → Program β) → Prop}
    {p : Program β} {f : β → Program α} (hown : p.EachRequest own)
    (hlift : ∀ query next, own query next → holds query fun answer => next answer >>= f)
    (hrest : ∀ b, (f b).EachRequest holds) : (p >>= f).EachRequest holds := by
  induction p with
  | done b => exact hrest b
  | fail e => trivial
  | tell event next ih => exact ih hown
  | ask query next ih =>
    obtain ⟨hquery, hnext⟩ := hown
    exact ⟨hlift query next hquery, fun answer => ih answer (hnext answer)⟩
  | resolve type ids next ih => exact fun answer => ih answer (hown answer)

/-- A program without requests makes no exchange. -/
theorem EachRequest.exchanges_eq_nil {p : Program α} (h : p.EachRequest fun _ _ => False)
    (surroundings : Surroundings σ) (state : σ) : p.exchanges surroundings state = [] := by
  induction p generalizing state with
  | done a => rfl
  | fail e => rfl
  | tell event next ih => exact ih h state
  | ask query next ih => exact h.1.elim
  | resolve type ids next ih => exact ih _ (h _) state

/-- **The request of an exchange.** What comes after it in a run is what the program does with
    the answer: it ends the run, and its events come after the request. -/
theorem EachRequest.of_exchanges {p : Program α} (h : p.EachRequest holds)
    {surroundings : Surroundings σ} {state : σ} {before after : List Exchange} {query : Query}
    {answer : Except Failure Value}
    (hexchanges : p.exchanges surroundings state = before ++ (query, answer) :: after) :
    ∃ next later events, holds query next
      ∧ after = (next answer).exchanges surroundings later
      ∧ p.run surroundings state =
        { (next answer).run surroundings later with
          events := events ++ .query query :: ((next answer).run surroundings later).events } := by
  induction p generalizing state before with
  | done a => simp [exchanges] at hexchanges
  | fail e => simp [exchanges] at hexchanges
  | tell event next ih =>
    obtain ⟨rest, later, events, hquery, hafter, hrun⟩ := ih h hexchanges
    exact ⟨rest, later, event :: events, hquery, hafter, by rw [run, hrun]; rfl⟩
  | ask asked next ih =>
    obtain ⟨hasked, hnext⟩ := h
    cases before with
    | nil =>
      -- The first request is the one that is looked for.
      obtain ⟨hpair, rfl⟩ := List.cons.inj hexchanges
      obtain ⟨rfl, rfl⟩ := Prod.mk.inj hpair
      exact ⟨next, _, [], hasked, rfl, rfl⟩
    | cons first before =>
      obtain ⟨-, hrest⟩ := List.cons.inj hexchanges
      obtain ⟨rest, later, events, hquery, hafter, hrun⟩ := ih _ (hnext _) hrest
      exact ⟨rest, later, .query asked :: events, hquery, hafter, by rw [run, hrun]; rfl⟩
  | resolve type ids next ih =>
    obtain ⟨rest, later, events, hquery, hafter, hrun⟩ := ih _ (h _) hexchanges
    exact ⟨rest, later, .resolve type ids :: events, hquery, hafter, by rw [run, hrun]; rfl⟩

end RecordSearch.Program
