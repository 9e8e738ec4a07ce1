import RecordSearch.Checked.Scalar
import RecordSearch.Error
import Mathlib.Data.List.Forall2

namespace RecordSearch

/-!
# Checks that pass

A check passes if all its parts do. `Checked.inside_eq_valid_iff`, `Checked.map_eq_valid_iff` and
`Checked.seq_eq_valid_iff` take a check that passed apart, down to the checks of single values, and
`Checked.all_eq_valid_iff` that of a list.
-/

variable {α β : Type}

namespace Checked

/-- Only a value that passed becomes a result. -/
theorem toExcept_eq_ok_iff {c : Checked α} {a : α} : c.toExcept = .ok a ↔ c = .valid a := by
  cases c with
  | valid b => rw [toExcept_valid, Except.ok.injEq, valid.injEq]
  | invalid faults => simp

/-- Where a check lies does not matter if it passes. -/
theorem inside_eq_valid_iff {step : PathStep} {c : Checked α} {a : α} :
    inside step c = .valid a ↔ c = .valid a := by
  cases c with
  | valid b => rw [inside_valid]
  | invalid faults => simp [inside]

/-- A function of a value passes with the value. -/
theorem map_eq_valid_iff {f : α → β} {c : Checked α} {b : β} :
    f <$> c = .valid b ↔ ∃ a, c = .valid a ∧ f a = b := by
  cases c with
  | valid a => simp
  | invalid faults => simp

/-- A second check of a value passes if the first does, and the second with its value. -/
theorem andThen_eq_valid_iff {c : Checked α} {check : α → Checked β} {b : β} :
    c.andThen check = .valid b ↔ ∃ a, c = .valid a ∧ check a = .valid b := by
  cases c with
  | valid a => simp [andThen]
  | invalid faults => simp [andThen]

/-- Two checks side by side pass if both do. -/
theorem seq_eq_valid_iff {f : Checked (α → β)} {c : Checked α} {b : β} :
    f <*> c = .valid b ↔ ∃ g a, f = .valid g ∧ c = .valid a ∧ g a = b := by
  cases f with
  | valid g =>
    cases c with
    | valid a => simp
    | invalid faults => simp
  | invalid faults =>
    cases c with
    | valid a => simp
    | invalid others => simp

/-- All members of a list pass if each of them does. -/
theorem all_eq_valid_iff {check : Value → Checked α} {vs : List Value} {as : List α} :
    all check vs = .valid as ↔ List.Forall₂ (fun v a => check v = .valid a) vs as := by
  -- The index counts up along the list, so the induction is for all of them.
  have hfrom : ∀ index, allFrom check index vs = .valid as ↔
      List.Forall₂ (fun v a => check v = .valid a) vs as := by
    induction vs generalizing as with
    | nil =>
      intro index
      cases as with
      | nil => exact ⟨fun _ => .nil, fun _ => rfl⟩
      | cons a as => exact ⟨nofun, nofun⟩
    | cons v vs ih =>
      intro index
      rw [allFrom, seq_eq_valid_iff]
      constructor
      · rintro ⟨_, rest, hfirst, hrest, rfl⟩
        obtain ⟨a, ha, rfl⟩ := map_eq_valid_iff.1 hfirst
        exact .cons (inside_eq_valid_iff.1 ha) ((ih _).1 hrest)
      · rintro (_ | ⟨hfirst, hrest⟩)
        exact ⟨_, _, map_eq_valid_iff.2 ⟨_, inside_eq_valid_iff.2 hfirst, rfl⟩,
          (ih _).2 hrest, rfl⟩
  exact hfrom 0

/-- Texts pass as the texts that they are. -/
theorem all_text_map_str (texts : List String) :
    all text (texts.map Value.str) = .valid texts :=
  all_eq_valid_iff.2 (List.forall₂_map_left_iff.2 (List.forall₂_same.2 fun _ _ => rfl))

end Checked

end RecordSearch
