import Mathlib.Data.List.Forall2

namespace RecordSearch

/-!
# Traversals that may fail

A list is walked with a function that may fail on a member. `mapM_eq_ok_iff` and
`forall₂_of_mapM_eq_ok` read a walk that succeeds member by member, and `mapM_eq_ok_of_forall`
and `exists_mapM_eq_error` say when a walk succeeds and when it does not;
`exists_of_mapM_eq_error` finds the member on which it fails. `bind_eq_ok_iff`, `bind_eq_error_iff`,
`map_eq_ok_iff` and `mapError_eq_ok_iff` take a computation apart into its steps,
`toOption_eq_some_iff` into its result.
-/

variable {α β ε : Type}

/-- A computation succeeds if its first step does, and what follows does with its result. -/
theorem bind_eq_ok_iff {x : Except ε α} {f : α → Except ε β} {b : β} :
    (x >>= f) = .ok b ↔ ∃ a, x = .ok a ∧ f a = .ok b := by
  cases x with
  | error e => simp [bind, Except.bind]
  | ok a => simp [bind, Except.bind]

/-- A computation fails if its first step does, or what follows does with its result. -/
theorem bind_eq_error_iff {x : Except ε α} {f : α → Except ε β} {e : ε} :
    (x >>= f) = .error e ↔ x = .error e ∨ ∃ a, x = .ok a ∧ f a = .error e := by
  cases x with
  | error e' => simp [bind, Except.bind]
  | ok a => simp [bind, Except.bind]

/-- What becomes of errors does not matter where there is none. -/
theorem mapError_eq_ok_iff {ε' : Type} {f : ε → ε'} {x : Except ε α} {a : α} :
    x.mapError f = .ok a ↔ x = .ok a := by
  cases x with
  | error e => simp [Except.mapError]
  | ok b => simp [Except.mapError]

/-- A function of the result leaves errors as they are. -/
theorem map_mapError {ε' : Type} (g : α → β) (f : ε → ε') (x : Except ε α) :
    g <$> x.mapError f = (g <$> x).mapError f := by
  cases x <;> rfl

/-- A function of a result has one if there is a result. -/
theorem map_eq_ok_iff {f : α → β} {x : Except ε α} {b : β} :
    f <$> x = .ok b ↔ ∃ a, x = .ok a ∧ f a = b := by
  cases x with
  | error e => simp [Functor.map, Except.map]
  | ok a => simp [Functor.map, Except.map]

/-- A computation with a result succeeds. -/
theorem toOption_eq_some_iff {x : Except ε α} {a : α} : x.toOption = some a ↔ x = .ok a := by
  cases x with
  | error e => simp [Except.toOption]
  | ok b => simp [Except.toOption]

/-- A walk succeeds with the results of all members, in their order. -/
theorem mapM_eq_ok_iff (f : α → Except ε β) (as : List α) (bs : List β) :
    as.mapM f = .ok bs ↔ as.map f = bs.map Except.ok := by
  induction as generalizing bs with
  | nil => cases bs <;> simp [pure, Except.pure]
  | cons a as ih =>
    rw [List.mapM_cons, List.map_cons]
    cases ha : f a with
    | error e => cases bs <;> simp [bind, Except.bind]
    | ok b =>
      cases hs : as.mapM f with
      | error e =>
        -- A rest that fails has no list of results at all.
        have hne : ∀ bs' : List β, as.map f ≠ bs'.map Except.ok := fun bs' h => by
          rw [← ih bs', hs] at h
          cases h
        cases bs <;> simp [bind, Except.bind, hne]
      | ok bs' =>
        have hmap : as.map f = bs'.map Except.ok := (ih bs').1 hs
        have hinj : Function.Injective (Except.ok : β → Except ε β) := fun _ _ => Except.ok.inj
        cases bs with
        | nil => simp [bind, Except.bind, pure, Except.pure]
        | cons c cs =>
          simp [bind, Except.bind, pure, Except.pure, hmap, (List.map_injective_iff.2 hinj).eq_iff]

/-- A walk that succeeds relates the members to their results. -/
theorem forall₂_of_mapM_eq_ok {f : α → Except ε β} {as : List α} {bs : List β}
    (h : as.mapM f = .ok bs) : List.Forall₂ (fun a b => f a = .ok b) as bs := by
  have hmap : List.Forall₂ (· = ·) (as.map f) (bs.map Except.ok) := by
    rw [List.forall₂_eq_eq_eq]
    exact (mapM_eq_ok_iff f as bs).1 h
  rwa [List.forall₂_map_left_iff, List.forall₂_map_right_iff] at hmap

/-- What relates the members of lists one by one can be composed. -/
theorem forall₂_trans {γ : Type} {r : α → β → Prop} {s : β → γ → Prop} {t : α → γ → Prop}
    (h : ∀ a b c, r a b → s b c → t a c) {as : List α} {bs : List β} {cs : List γ}
    (hr : List.Forall₂ r as bs) (hs : List.Forall₂ s bs cs) : List.Forall₂ t as cs := by
  induction hr generalizing cs with
  | nil =>
    cases hs
    exact .nil
  | cons hab _ ih =>
    cases hs with
    | cons hbc hrest => exact .cons (h _ _ _ hab hbc) (ih hrest)

/-- What is related one by one has a related member for each. -/
theorem exists_of_mem_right {r : α → β → Prop} {as : List α} {bs : List β}
    (h : List.Forall₂ r as bs) {b : β} (hb : b ∈ bs) : ∃ a ∈ as, r a b := by
  induction h with
  | nil => cases hb
  | @cons a first as bs hab _ ih =>
    rcases List.mem_cons.1 hb with rfl | hb
    · exact ⟨a, List.mem_cons_self, hab⟩
    · obtain ⟨c, hc, hrel⟩ := ih hb
      exact ⟨c, List.mem_cons_of_mem a hc, hrel⟩

/-- What is there for each member can be collected. -/
theorem exists_map_eq_map_some {f : α → Option β} {as : List α} (h : ∀ a ∈ as, ∃ b, f a = some b) :
    ∃ bs : List β, as.map f = bs.map some := by
  induction as with
  | nil => exact ⟨[], rfl⟩
  | cons a as ih =>
    obtain ⟨b, hb⟩ := h a List.mem_cons_self
    obtain ⟨bs, hbs⟩ := ih fun other hother => h other (List.mem_cons_of_mem a hother)
    exact ⟨b :: bs, by rw [List.map_cons, List.map_cons, hb, hbs]⟩

/-- Walks with functions that agree on the members are the same. -/
theorem mapM_congr_left {f g : α → Except ε β} {as : List α} (h : ∀ a ∈ as, f a = g a) :
    as.mapM f = as.mapM g := by
  induction as with
  | nil => rfl
  | cons a as ih =>
    rw [List.mapM_cons, List.mapM_cons, h a List.mem_cons_self,
      ih fun other hother => h other (List.mem_cons_of_mem a hother)]

/-- A walk succeeds if no member fails. -/
theorem mapM_eq_ok_of_forall {f : α → Except ε β} (g : α → β) {as : List α}
    (h : ∀ a ∈ as, f a = .ok (g a)) : as.mapM f = .ok (as.map g) := by
  rw [mapM_eq_ok_iff, List.map_map]
  exact List.map_congr_left h

/-- A walk fails if a member does. -/
theorem exists_mapM_eq_error {f : α → Except ε β} {as : List α} {a : α} (hmem : a ∈ as)
    (hfail : ∀ b, f a ≠ .ok b) : ∃ e, as.mapM f = .error e := by
  cases hs : as.mapM f with
  | error e => exact ⟨e, rfl⟩
  | ok bs =>
    have hok : f a ∈ bs.map Except.ok := (mapM_eq_ok_iff f as bs).1 hs ▸ List.mem_map_of_mem hmem
    obtain ⟨b, -, hb⟩ := List.mem_map.1 hok
    exact absurd hb.symm (hfail b)

/-- A walk that fails, fails on some member. -/
theorem exists_of_mapM_eq_error {f : α → Except ε β} {as : List α} {e : ε}
    (h : as.mapM f = .error e) : ∃ a ∈ as, f a = .error e := by
  induction as with
  | nil => cases h
  | cons a as ih =>
    rw [List.mapM_cons] at h
    cases ha : f a with
    | error other =>
      rw [ha] at h
      cases h
      exact ⟨a, List.mem_cons_self, ha⟩
    | ok b =>
      cases hs : as.mapM f with
      | error other =>
        rw [ha, hs] at h
        cases h
        obtain ⟨c, hmem, hc⟩ := ih hs
        exact ⟨c, List.mem_cons_of_mem a hmem, hc⟩
      | ok bs =>
        rw [ha, hs] at h
        cases h

end RecordSearch
