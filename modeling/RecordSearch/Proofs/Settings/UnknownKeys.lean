import RecordSearch.Proofs.Settings.Selection
import RecordSearch.Settings.Layers

namespace RecordSearch

/-!
# Settings of no section

The merged layers may have keys that name no section. Each of them is a fault, beside all that is
found otherwise.

* `GainsFault`: an outcome with one more fault;
* `without_merge`: layers are merged key by key;
* `mem_faults_checkOthers_iff`: the faults of the keys that name no section;
* `gainsFault_check`: the check with one such key more.
-/

/-- The faults of an outcome that is no other error; settings that are loaded have none. -/
def faultsOf? : Except Error Settings → Option (List Fault)
  | .ok _ => some []
  | .error (.invalid faults) => some faults
  | .error _ => none

/-- The fault of a setting of no section. -/
def unknownFault (key : String) : Fault := ⟨[.field key], .unknownField⟩

/-- **An outcome with one more fault.** There are no settings: the second outcome has the faults of
    the first one and the new one, or both are the same error. -/
def GainsFault (fault : Fault) (outcome outcome' : Except Error Settings) : Prop :=
  (∃ faults faults', faultsOf? outcome = some faults ∧ outcome' = .error (.invalid faults')
      ∧ ∀ f, f ∈ faults' ↔ f ∈ faults ∨ f = fault)
    ∨ ∃ e, outcome = .error e ∧ outcome' = .error e

/-- With one more fault there are no settings. -/
theorem GainsFault.ne_ok {fault : Fault} {outcome outcome' : Except Error Settings}
    (h : GainsFault fault outcome outcome') {settings : Settings} : outcome' ≠ .ok settings := by
  rcases h with ⟨_, _, -, rfl, -⟩ | ⟨e, -, rfl⟩ <;> exact nofun

/-! ### Merging -/

/-- Layers are merged without a key as the layers without the key are. -/
theorem without_merge (base upper : Document) (key : String) :
    (Document.merge base upper).without key =
      Document.merge (base.without key) (upper.without key) := by
  induction upper generalizing base with
  | nil => rw [Document.merge]; rfl
  | cons entry upper ih =>
    obtain ⟨k, v⟩ := entry
    rw [Document.merge, ih, Document.without_cons]
    by_cases hkey : k = key
    · have hbase : ∀ w, (base.insert k w).without key = base.without key := fun w => by
        rw [Document.without_insert, if_pos hkey]
      rw [if_pos hkey]
      -- Whether the key is there decides what is inserted, but in neither case is it left.
      cases base.get? k <;> dsimp only <;> rw [hbase]
    · have hbase : ∀ w, (base.insert k w).without key = (base.without key).insert k w := fun w => by
        rw [Document.without_insert, if_neg hkey]
      rw [if_neg hkey, Document.merge, Document.get?_without hkey]
      cases base.get? k <;> dsimp only <;> rw [hbase]

/-- The keys of the lower layer stay. -/
theorem mem_keys_merge {base : Document} {key : String} (h : key ∈ base.keys) (upper : Document) :
    key ∈ (Document.merge base upper).keys := by
  induction upper generalizing base with
  | nil =>
    rw [Document.merge]
    exact h
  | cons entry upper ih =>
    obtain ⟨k, v⟩ := entry
    have hinsert : ∀ w, key ∈ (base.insert k w).keys := fun w => by
      rw [insert_eq_setText, Document.keys, keys_setText]
      split
      · exact h
      · exact List.mem_append_left _ h
    rw [Document.merge]
    cases base.get? k with
    | none => exact ih (hinsert _)
    | some w => exact ih (hinsert _)

/-! ### The check -/

/-- The faults of a check. -/
def Checked.faults {α : Type} : Checked α → List Fault
  | .valid _ => []
  | .invalid faults => faults

/-- **Each key of no section is a fault.** -/
theorem mem_faults_checkOthers_iff {state : Document} {f : Fault} :
    f ∈ (Settings.checkOthers state).faults ↔
      ∃ key ∈ state.keys, (∀ part ∈ sections, part.name ≠ key) ∧ f = unknownFault key := by
  induction state with
  | nil => simp [Settings.checkOthers, Checked.faults, Document.keys]
  | cons entry state ih =>
    obtain ⟨k, v⟩ := entry
    have hkeys : Document.keys ((k, v) :: state) = k :: Document.keys state := rfl
    rw [Settings.checkOthers, hkeys]
    -- An entry adds its fault exactly if it has the name of no section.
    by_cases hany : (sections.any fun part => part.name == k) = true
    · obtain ⟨part, hpart, hname⟩ := List.any_eq_true.1 hany
      rw [if_pos hany, ih]
      constructor
      · rintro ⟨key, hkey, hrest⟩
        exact ⟨key, List.mem_cons_of_mem k hkey, hrest⟩
      · rintro ⟨key, hkey, hother, heq⟩
        rcases List.mem_cons.1 hkey with rfl | hmem
        · exact absurd (beq_iff_eq.1 hname) (hother part hpart)
        · exact ⟨key, hmem, hother, heq⟩
    · have hnone : ∀ part ∈ sections, part.name ≠ k := fun part hpart heq =>
        hany (List.any_eq_true.2 ⟨part, hpart, beq_iff_eq.2 heq⟩)
      have hfaults : ((fun _ _ => ()) <$> Checked.inside (.field k)
          (Checked.fail .unknownField : Checked Unit) <*> Settings.checkOthers state).faults =
            unknownFault k :: (Settings.checkOthers state).faults := by
        cases Settings.checkOthers state <;> rfl
      rw [if_neg hany, hfaults, List.mem_cons, ih]
      constructor
      · rintro (rfl | ⟨key, hkey, hrest⟩)
        · exact ⟨k, List.mem_cons_self, hnone, rfl⟩
        · exact ⟨key, List.mem_cons_of_mem k hkey, hrest⟩
      · rintro ⟨key, hkey, hother, heq⟩
        rcases List.mem_cons.1 hkey with rfl | hmem
        · exact .inl heq
        · exact .inr ⟨key, hmem, hother, heq⟩

/-- A key of no section more is one fault more. -/
theorem mem_faults_of_without {state state' : Document} {key : String}
    (hkey : ∀ part ∈ sections, part.name ≠ key) (hmem : key ∈ state'.keys)
    (h : state.without key = state'.without key) (f : Fault) :
    f ∈ (Settings.checkOthers state').faults ↔
      f ∈ (Settings.checkOthers state).faults ∨ f = unknownFault key := by
  have hkeys : ∀ other ≠ key, (other ∈ state.keys ↔ other ∈ state'.keys) := fun other hne => by
    have hsame := congrArg (fun d : Document => other ∈ d.keys) h
    rw [eq_iff_iff, Document.mem_keys_without_iff, Document.mem_keys_without_iff] at hsame
    simpa [hne] using hsame
  rw [mem_faults_checkOthers_iff, mem_faults_checkOthers_iff]
  constructor
  · rintro ⟨other, hother, hnone, rfl⟩
    by_cases heq : other = key
    · exact .inr (by rw [heq])
    · exact .inl ⟨other, (hkeys other heq).2 hother, hnone, rfl⟩
  · rintro (⟨other, hother, hnone, rfl⟩ | rfl)
    · by_cases heq : other = key
      · exact ⟨key, hmem, hkey, by rw [heq]⟩
      · exact ⟨other, (hkeys other heq).1 hother, hnone, rfl⟩
    · exact ⟨key, hmem, hkey, rfl⟩

/-- A check beside others gains the faults that they gain. -/
theorem gainsFault_of_faults {checked : Checked (Unit → Settings)} {others others' : Checked Unit}
    {fault : Fault} (h : ∀ f, f ∈ others'.faults ↔ f ∈ others.faults ∨ f = fault) :
    GainsFault fault (checked <*> others).toExcept (checked <*> others').toExcept := by
  cases others' with
  | valid u =>
    have hnone : fault ∈ (Checked.valid u).faults := (h fault).2 (.inr rfl)
    cases hnone
  | invalid faults' =>
    have hmem : ∀ f, f ∈ faults' ↔ f ∈ others.faults ∨ f = fault := h
    refine .inl ?_
    -- The faults of the sections come first on both sides, so those of the others decide.
    cases checked with
    | valid settings =>
      cases others with
      | valid u => exact ⟨[], faults', rfl, rfl, hmem⟩
      | invalid faults => exact ⟨faults, faults', rfl, rfl, hmem⟩
    | invalid first =>
      cases others with
      | valid u =>
        refine ⟨first, first ++ faults', rfl, rfl, fun f => ?_⟩
        rw [List.mem_append, hmem f]
        exact or_congr_right ⟨fun hf => hf.resolve_left List.not_mem_nil, .inr⟩
      | invalid faults =>
        refine ⟨first ++ faults, first ++ faults', rfl, rfl, fun f => ?_⟩
        rw [List.mem_append, List.mem_append, hmem f, or_assoc]
        rfl

/-- **The check refuses a key of no section**, beside all that it finds otherwise. -/
theorem gainsFault_check [Platform] {state state' : Document} {key : String}
    (hkey : ∀ part ∈ sections, part.name ≠ key) (hmem : key ∈ state'.keys)
    (h : state.without key = state'.without key) (areNamesText : Bool) :
    GainsFault (unknownFault key) (Settings.check state areNamesText)
      (Settings.check state' areNamesText) := by
  have hget : ∀ part ∈ sections, state'.get? part.name = state.get? part.name := by
    intro part hpart
    rw [← Document.get?_without (hkey part hpart), ← h, Document.get?_without (hkey part hpart)]
  have hconnection : state'.get? "connection" = state.get? "connection" :=
    hget connectionSection List.mem_cons_self
  have hobservability : state'.get? "observability" = state.get? "observability" :=
    hget observabilitySection (List.mem_cons_of_mem _ List.mem_cons_self)
  rw [Settings.check, Settings.check, hconnection, hobservability]
  cases Settings.checkConnection (state.get? "connection") with
  | error e => exact .inr ⟨e, rfl, rfl⟩
  | ok connection =>
    cases areNamesText with
    | false => exact .inr ⟨_, rfl, rfl⟩
    | true => exact gainsFault_of_faults (mem_faults_of_without hkey hmem h)

end RecordSearch
