import RecordSearch.Proofs.Transcript

namespace RecordSearch

/-!
# Interleaved runs

Programs that run at the same time share a backend, which serves their requests one at a time. In
each step one of the programs goes on, and which one is up to a schedule. What has been exchanged is
logged, with the place of the program in the list.

* `Pool`, `Pool.step`, `Pool.run`: programs with the state of the backend, a step and a run;
* `Pool.Steps`: all that a step can do;
* `Pool.Follows`: each program has come to where its own exchanges lead;
* `Pool.CanEnd`, `Pool.exists_isComplete_run`: any pool can be run until all programs have ended.

So whatever holds of all transcripts of the programs holds of them in every interleaving
(`Pool.follows_run`).
-/

variable {σ α : Type}

/-- The program has come to an end. -/
def Program.IsEnded (p : Program α) : Prop := (∃ a, p = .done a) ∨ ∃ e, p = .fail e

/-- Programs that run at the same time: what is left of each, the state of the backend, and the
    exchanges up to now, each with the place of the program that asked. -/
structure Pool (σ α : Type) where
  programs : List (Program α)
  state : σ
  log : List (Nat × Exchange)

/-- The exchanges in a log that a program had. -/
def exchangesOf (i : Nat) (log : List (Nat × Exchange)) : List Exchange :=
  (log.filter fun entry => entry.1 = i).map Prod.snd

/-- The exchanges of a program are those in the log that it had. -/
theorem mem_exchangesOf_iff {i : Nat} {log : List (Nat × Exchange)} {exchange : Exchange} :
    exchange ∈ exchangesOf i log ↔ (i, exchange) ∈ log := by
  simp [exchangesOf]

/-- Exchanges of a program are added to those that it had, and to no others. -/
theorem exchangesOf_append (i j : Nat) (log : List (Nat × Exchange)) (exchanges : List Exchange) :
    exchangesOf j (log ++ exchanges.map fun exchange => (i, exchange))
      = exchangesOf j log ++ if i = j then exchanges else [] := by
  rw [exchangesOf, exchangesOf, List.filter_append, List.map_append]
  by_cases h : i = j <;> simp [h, List.filter_map, Function.comp_def]

namespace Pool

/-- Programs that have not begun. -/
def start (programs : List (Program α)) (state : σ) : Pool σ α := ⟨programs, state, []⟩

/-- One program goes on: its next request is answered, its next event happens. Nothing happens if
    it has ended. -/
def step (surroundings : Surroundings σ) (pool : Pool σ α) (i : Nat) : Pool σ α :=
  match pool.programs[i]? with
  | some (.tell _ next) => { pool with programs := pool.programs.set i next }
  | some (.resolve type ids next) =>
    { pool with programs := pool.programs.set i (next (surroundings.resolve type ids)) }
  | some (.ask query next) =>
    let answered := surroundings.answer pool.state query
    ⟨pool.programs.set i (next answered.1), answered.2, pool.log ++ [(i, query, answered.1)]⟩
  | _ => pool

/-- The programs go on as a schedule says. -/
def run (surroundings : Surroundings σ) (pool : Pool σ α) (schedule : List Nat) : Pool σ α :=
  schedule.foldl (step surroundings) pool

/-- All programs have come to an end. -/
def IsComplete (pool : Pool σ α) : Prop := ∀ p ∈ pool.programs, p.IsEnded

variable {surroundings : Surroundings σ}

/-- **What a step does.** Nothing, or a program goes on without an exchange, or it has one. -/
inductive Steps (surroundings : Surroundings σ) (pool : Pool σ α) (i : Nat) : Pool σ α → Prop where
  | idle : Steps surroundings pool i pool
  | silent {p next : Program α} (hp : pool.programs[i]? = some p) (hleads : p.LeadsTo [] next) :
      Steps surroundings pool i { pool with programs := pool.programs.set i next }
  | asked {query : Query} {next : Except Failure Value → Program α}
      (hp : pool.programs[i]? = some (.ask query next)) :
      Steps surroundings pool i
        ⟨pool.programs.set i (next (surroundings.answer pool.state query).1),
          (surroundings.answer pool.state query).2,
          pool.log ++ [(i, query, (surroundings.answer pool.state query).1)]⟩

/-- Every step is of these kinds. -/
theorem steps_step (surroundings : Surroundings σ) (pool : Pool σ α) (i : Nat) :
    Steps surroundings pool i (pool.step surroundings i) := by
  rw [step]
  cases hp : pool.programs[i]? with
  | none => exact .idle
  | some p =>
    cases p with
    | done a => exact .idle
    | fail e => exact .idle
    | tell event next => exact .silent hp fun _ _ h => .tell h
    | ask query next => exact .asked hp
    | resolve type ids next => exact .silent hp fun _ _ h => .resolve _ h

/-- What each step preserves, a whole run does. -/
theorem run_preserves {motive : Pool σ α → Prop}
    (hstep : ∀ pool later i, motive pool → Steps surroundings pool i later → motive later)
    {pool : Pool σ α} (h : motive pool) (schedule : List Nat) :
    motive (pool.run surroundings schedule) := by
  induction schedule generalizing pool with
  | nil => exact h
  | cons i schedule ih => exact ih (hstep _ _ i h (steps_step surroundings pool i))

/-- A schedule that is longer goes on where the shorter one has come to. -/
theorem run_append (pool : Pool σ α) (first second : List Nat) :
    pool.run surroundings (first ++ second)
      = (pool.run surroundings first).run surroundings second :=
  List.foldl_append

/-! ### Programs and their exchanges -/

/-- **The programs follow their exchanges.** Each has come to where its own exchanges lead, and
    no others are in the log. -/
structure Follows (programs : List (Program α)) (pool : Pool σ α) : Prop where
  length_eq : pool.programs.length = programs.length
  leads : ∀ (i : Nat) (p : Program α), programs[i]? = some p →
    ∃ q, pool.programs[i]? = some q ∧ p.LeadsTo (exchangesOf i pool.log) q
  place_lt : ∀ entry ∈ pool.log, entry.1 < programs.length

/-- A program that goes on follows its exchanges, if those that lead further are added. -/
theorem Follows.set {programs : List (Program α)} {pool : Pool σ α} (h : Follows programs pool)
    {i : Nat} {p next : Program α} (hp : pool.programs[i]? = some p) {exchanges : List Exchange}
    (hleads : p.LeadsTo exchanges next) (state : σ) :
    Follows programs ⟨pool.programs.set i next, state,
      pool.log ++ exchanges.map fun exchange => (i, exchange)⟩ := by
  have hlt : i < pool.programs.length := (List.getElem?_eq_some_iff.1 hp).1
  refine ⟨by rw [List.length_set, h.length_eq], fun j q hq => ?_, fun entry hentry => ?_⟩
  · obtain ⟨current, hcurrent, hpast⟩ := h.leads j q hq
    rw [exchangesOf_append]
    -- Only the program that takes the step goes on; the exchanges are of no other one.
    by_cases hj : i = j
    · subst hj
      rw [hp, Option.some.injEq] at hcurrent
      subst hcurrent
      rw [if_pos rfl, List.getElem?_set_self hlt]
      exact ⟨next, rfl, hpast.trans hleads⟩
    · rw [if_neg hj, List.append_nil, List.getElem?_set_ne hj]
      exact ⟨current, hcurrent, hpast⟩
  · rcases List.mem_append.1 hentry with hold | hnew
    · exact h.place_lt entry hold
    · obtain ⟨exchange, -, rfl⟩ := List.mem_map.1 hnew
      exact h.length_eq ▸ hlt

/-- Programs that follow their exchanges do so after a step. -/
theorem Follows.step {programs : List (Program α)} {pool later : Pool σ α} {i : Nat}
    (h : Follows programs pool) (hstep : Steps surroundings pool i later) :
    Follows programs later := by
  cases hstep with
  | idle => exact h
  | silent hp hleads =>
    have hset := h.set hp hleads pool.state
    rwa [List.map_nil, List.append_nil] at hset
  | @asked query next hp =>
    have hleads : (Program.ask query next).LeadsTo
        [(query, (surroundings.answer pool.state query).1)]
        (next (surroundings.answer pool.state query).1) := fun _ _ hrest => .ask _ hrest
    exact h.set hp hleads (surroundings.answer pool.state query).2

/-- **Programs follow their exchanges** in every interleaving. -/
theorem follows_run (surroundings : Surroundings σ) (programs : List (Program α)) (state : σ)
    (schedule : List Nat) :
    Follows programs ((start programs state).run surroundings schedule) := by
  refine run_preserves (fun pool later i h hstep => h.step hstep) ?_ schedule
  exact ⟨rfl, fun i p hp => ⟨p, hp, p.leadsTo_refl⟩, fun entry hentry => nomatch hentry⟩

/-! ### Completion -/

/-- A program can be run to its end while the others stay where they are. -/
def CanEnd (surroundings : Surroundings σ) (pool : Pool σ α) (i : Nat) : Prop :=
  ∃ schedule, (∃ p, (pool.run surroundings schedule).programs[i]? = some p ∧ p.IsEnded)
    ∧ ∀ j, j ≠ i → (pool.run surroundings schedule).programs[j]? = pool.programs[j]?

/-- A program can be run to its end if what a step leaves of it can be. -/
theorem CanEnd.of_step {pool : Pool σ α} {i : Nat} {p next : Program α}
    (hp : pool.programs[i]? = some p)
    (hset : (pool.step surroundings i).programs = pool.programs.set i next)
    (h : (pool.step surroundings i).programs[i]? = some next →
      (pool.step surroundings i).CanEnd surroundings i) : pool.CanEnd surroundings i := by
  have hlt : i < pool.programs.length := (List.getElem?_eq_some_iff.1 hp).1
  obtain ⟨schedule, hended, hothers⟩ := h (by rw [hset, List.getElem?_set_self hlt])
  refine ⟨i :: schedule, hended, fun j hj => (hothers j hj).trans ?_⟩
  rw [hset, List.getElem?_set_ne (Ne.symm hj)]

/-- Every program can be run to its end. -/
theorem canEnd_of_getElem? (surroundings : Surroundings σ) {i : Nat} {p : Program α}
    {pool : Pool σ α} (hp : pool.programs[i]? = some p) : pool.CanEnd surroundings i := by
  -- Programs are finite trees, so that each step leaves less of one.
  induction p generalizing pool with
  | done a => exact ⟨[], ⟨_, hp, .inl ⟨a, rfl⟩⟩, fun _ _ => rfl⟩
  | fail e => exact ⟨[], ⟨_, hp, .inr ⟨e, rfl⟩⟩, fun _ _ => rfl⟩
  | tell event next ih => exact .of_step hp (by rw [step, hp]) ih
  | ask query next ih =>
    exact .of_step hp (by rw [step, hp]) (ih (surroundings.answer pool.state query).1)
  | resolve type ids next ih =>
    exact .of_step hp (by rw [step, hp]) (ih (surroundings.resolve type ids))

/-- The programs of a pool remain as many as they are. -/
theorem length_run (pool : Pool σ α) (schedule : List Nat) :
    (pool.run surroundings schedule).programs.length = pool.programs.length := by
  refine run_preserves (motive := fun later => later.programs.length = pool.programs.length)
    (fun middle later i h hstep => ?_) rfl schedule
  cases hstep with
  | idle => exact h
  | silent hp hleads => exact List.length_set.trans h
  | asked hp => exact List.length_set.trans h

/-- **Completion.** A pool can be run until all programs have ended. -/
theorem exists_isComplete_run (surroundings : Surroundings σ) (pool : Pool σ α) :
    ∃ schedule, (pool.run surroundings schedule).IsComplete := by
  -- One program after the other is run to its end; those before it have ended and stay so.
  have hfirst : ∀ count ≤ pool.programs.length, ∃ schedule, ∀ i < count, ∀ p,
      (pool.run surroundings schedule).programs[i]? = some p → p.IsEnded := by
    intro count hcount
    induction count with
    | zero => exact ⟨[], fun i hi => absurd hi (Nat.not_lt_zero i)⟩
    | succ count ih =>
      obtain ⟨before, hbefore⟩ := ih (Nat.le_of_succ_le hcount)
      have hlt : count < (pool.run surroundings before).programs.length := by
        rw [length_run]
        exact hcount
      obtain ⟨schedule, ⟨q, hq, hended⟩, hothers⟩ :=
        canEnd_of_getElem? surroundings (List.getElem?_eq_getElem hlt)
      refine ⟨before ++ schedule, fun i hi p hp => ?_⟩
      rw [run_append] at hp
      by_cases hlast : i = count
      · rw [hlast, hq, Option.some.injEq] at hp
        exact hp ▸ hended
      · rw [hothers i hlast] at hp
        exact hbefore i (by omega) p hp
  obtain ⟨schedule, hended⟩ := hfirst pool.programs.length (Nat.le_refl _)
  refine ⟨schedule, fun p hmem => ?_⟩
  obtain ⟨i, hi⟩ := List.getElem?_of_mem hmem
  have hlt := (List.getElem?_eq_some_iff.1 hi).1
  rw [length_run] at hlt
  exact hended i hlt p hi

end Pool

end RecordSearch
