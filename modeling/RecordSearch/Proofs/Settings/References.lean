import RecordSearch.Settings.EnvFile
import Mathlib.Data.List.Basic
import Mathlib.Data.List.Find
import Mathlib.Data.List.Induction

namespace RecordSearch

/-!
# What references depend on

A text with references depends on the variables that it refers to, and on no others. A variable that
nothing refers to can be left out: of the surroundings, or of the file itself.

* `FileVariable.references`: the names that the text of a variable refers to;
* `FileVariable.resolve`: a variable with its references replaced;
* `resolveReferences_of_unreferenced`: nothing changes with a variable of the surroundings that
  nothing refers to;
* `resolveReferences_filter`: variables that no others refer to can be left out before their
  references are replaced or afterwards.
-/

/-- The names that a text refers to. The first argument bounds its length. -/
def referencedNames : (fuel : Nat) → List Nat → List (List Nat)
  | 0, _ => []
  | _, [] => []
  | fuel + 1, code :: codes =>
    match (Text.afterStart? (Text.codes "$\x7b") (code :: codes)).bind readReference with
    | some (ref, rest) => ref.name :: referencedNames fuel rest
    | none => referencedNames fuel codes

/-- **The names that a variable refers to.** -/
def FileVariable.references (v : FileVariable) : List (List Nat) :=
  match v.text with
  | some text => referencedNames text.length text
  | none => []

/-- A variable with its references replaced. -/
def FileVariable.resolve (lookup : List Nat → Option (Option (List Nat))) (v : FileVariable) :
    FileVariable :=
  ⟨v.name, v.text.map fun text => replaceReferences lookup text.length text⟩

/-- The variables of the surroundings, as references find them. -/
def surroundingVariables (surroundings : Variables) : List FileVariable :=
  surroundings.map fun v => ⟨Text.codes v.1, v.2.codes?⟩

/-- Sets the next variable of a file behind those before it. -/
def resolveNext (surroundings : Variables) (before : List FileVariable) (v : FileVariable) :
    List FileVariable :=
  setVariable before (v.resolve fun name =>
    (textOf? before name).or (textOf? (surroundingVariables surroundings) name))

/-- The variables of a file are set one after the other. -/
theorem resolveReferences_eq_foldl (surroundings : Variables) (vars : List FileVariable) :
    resolveReferences surroundings vars = vars.foldl (resolveNext surroundings) [] := rfl

theorem resolveReferences_append_singleton (surroundings : Variables) (vars : List FileVariable)
    (v : FileVariable) :
    resolveReferences surroundings (vars ++ [v]) =
      resolveNext surroundings (resolveReferences surroundings vars) v := by
  rw [resolveReferences_eq_foldl, List.foldl_append]
  rfl

/-! ### Single texts -/

/-- **A text depends on what it refers to.** -/
theorem replaceReferences_congr {lookup lookup' : List Nat → Option (Option (List Nat))}
    {fuel : Nat} {codes : List Nat}
    (h : ∀ name ∈ referencedNames fuel codes, lookup name = lookup' name) :
    replaceReferences lookup fuel codes = replaceReferences lookup' fuel codes := by
  induction fuel generalizing codes with
  | zero => rfl
  | succ fuel ih =>
    cases codes with
    | nil => rfl
    | cons code codes =>
      rw [referencedNames] at h
      rw [replaceReferences, replaceReferences]
      -- A reference is looked up by its name alone, and then the text goes on behind it.
      cases hread : (Text.afterStart? (Text.codes "$\x7b") (code :: codes)).bind readReference with
      | none =>
        rw [hread] at h
        dsimp only
        rw [ih h]
      | some found =>
        obtain ⟨ref, rest⟩ := found
        rw [hread] at h
        have hown : ref.text lookup = ref.text lookup' := by
          rw [Reference.text, Reference.text, h ref.name List.mem_cons_self]
        dsimp only
        rw [hown, ih fun name hname => h name (List.mem_cons_of_mem _ hname)]

/-- A variable depends on what it refers to. -/
theorem FileVariable.resolve_congr {lookup lookup' : List Nat → Option (Option (List Nat))}
    {v : FileVariable} (h : ∀ name ∈ v.references, lookup name = lookup' name) :
    v.resolve lookup = v.resolve lookup' := by
  obtain ⟨name, text⟩ := v
  cases text with
  | none => rfl
  | some text =>
    exact congrArg (fun text => FileVariable.mk name (some text)) (replaceReferences_congr h)

/-! ### The surroundings -/

/-- A variable of another name is not found. -/
theorem textOf?_append_cons {w : FileVariable} {name : List Nat} (h : w.name ≠ name)
    (before after : List FileVariable) :
    textOf? (before ++ w :: after) name = textOf? (before ++ after) name := by
  rw [textOf?, textOf?, List.find?_append, List.find?_append, List.find?_cons,
    beq_eq_false_iff_ne.2 h]

/-- **A variable of the surroundings that nothing refers to** changes nothing. -/
theorem resolveReferences_of_unreferenced {vars : List FileVariable} {name : String}
    (h : ∀ v ∈ vars, Text.codes name ∉ v.references) (before after : Variables) (value : Value) :
    resolveReferences (before ++ (name, value) :: after) vars =
      resolveReferences (before ++ after) vars := by
  rw [resolveReferences_eq_foldl, resolveReferences_eq_foldl]
  refine List.foldl_ext _ _ _ fun done v hv => congrArg (setVariable done)
    (FileVariable.resolve_congr fun other hother => ?_)
  have hne : Text.codes name ≠ other := fun heq => h v hv (heq ▸ hother)
  have hsurrounding : textOf? (surroundingVariables (before ++ (name, value) :: after)) other =
      textOf? (surroundingVariables (before ++ after)) other := by
    rw [surroundingVariables, surroundingVariables, List.map_append, List.map_append,
      List.map_cons]
    exact textOf?_append_cons hne _ _
  rw [hsurrounding]

/-! ### Variables that are left out -/

/-- What is there after a variable is set was there, or is the variable. -/
theorem mem_setVariable {vars : List FileVariable} {v w : FileVariable}
    (h : w ∈ setVariable vars v) : w ∈ vars ∨ w = v := by
  induction vars with
  | nil => exact .inr (List.mem_singleton.1 h)
  | cons u vars ih =>
    rw [setVariable] at h
    split at h
    · rcases List.mem_cons.1 h with rfl | hmem
      · exact .inr rfl
      · exact .inl (List.mem_cons_of_mem u hmem)
    · rcases List.mem_cons.1 h with rfl | hmem
      · exact .inl List.mem_cons_self
      · exact (ih hmem).imp (List.mem_cons_of_mem u) id

/-- The names that result are those of the file. -/
theorem exists_of_mem_resolveReferences {surroundings : Variables} {vars : List FileVariable}
    {w : FileVariable} (h : w ∈ resolveReferences surroundings vars) :
    ∃ v ∈ vars, v.name = w.name := by
  induction vars using List.reverseRecOn with
  | nil => cases h
  | append_singleton vars v ih =>
    rw [resolveReferences_append_singleton] at h
    rcases mem_setVariable h with hmem | rfl
    · obtain ⟨u, hu, hname⟩ := ih hmem
      exact ⟨u, List.mem_append_left _ hu, hname⟩
    · exact ⟨v, List.mem_append_right _ (List.mem_singleton_self v), rfl⟩

section

variable {keep : List Nat → Bool}

/-- What is found at a name stays if none of the variables that are left out has it. -/
theorem textOf?_filter {vars : List FileVariable} {name : List Nat}
    (h : ∀ w ∈ vars, keep w.name = false → w.name ≠ name) :
    textOf? (vars.filter fun v => keep v.name) name = textOf? vars name := by
  rw [textOf?, textOf?, List.find?_filter]
  refine congrArg (Option.map FileVariable.text) (List.find?_congr fun w hw => ?_)
  cases hkeep : keep w.name with
  | true =>
    rw [Bool.eq_iff_iff]
    simp
  | false =>
    rw [beq_eq_false_iff_ne.2 (h w hw hkeep)]
    rfl

/-- To set a variable that is left out leaves the others as they are. -/
theorem filter_setVariable (vars : List FileVariable) (v : FileVariable) :
    ((setVariable vars v).filter fun v => keep v.name) =
      if keep v.name then setVariable (vars.filter fun v => keep v.name) v
      else vars.filter fun v => keep v.name := by
  induction vars with
  | nil =>
    rw [setVariable, List.filter_cons]
    rfl
  | cons w vars ih =>
    rw [setVariable]
    by_cases hname : w.name = v.name
    · rw [if_pos hname, List.filter_cons, List.filter_cons, hname]
      cases keep v.name with
      | true => exact (if_pos hname).symm
      | false => rfl
    · rw [if_neg hname, List.filter_cons, List.filter_cons, ih]
      cases keep w.name with
      | true =>
        cases keep v.name with
        | true => exact (if_neg hname).symm
        | false => rfl
      | false => rfl

variable (keep) in
/-- **Variables that no others refer to** can be left out before references are replaced or
    afterwards. -/
theorem resolveReferences_filter {vars : List FileVariable}
    (h : ∀ v ∈ vars, keep v.name = true → ∀ w ∈ vars, keep w.name = false →
      w.name ∉ v.references) (surroundings : Variables) :
    resolveReferences surroundings (vars.filter fun v => keep v.name) =
      (resolveReferences surroundings vars).filter fun v => keep v.name := by
  induction vars using List.reverseRecOn with
  | nil => rfl
  | append_singleton vars v ih =>
    have hinit := ih fun u hu hkeep w hw =>
      h u (List.mem_append_left _ hu) hkeep w (List.mem_append_left _ hw)
    rw [resolveReferences_append_singleton, List.filter_append, List.filter_cons, resolveNext,
      filter_setVariable, ← hinit]
    cases hkeep : keep v.name with
    | false =>
      -- A variable that is left out only sets itself.
      have hleft : keep (v.resolve fun name => (textOf? (resolveReferences surroundings vars)
          name).or (textOf? (surroundingVariables surroundings) name)).name = false := hkeep
      rw [hleft, if_neg Bool.false_ne_true, if_neg Bool.false_ne_true, List.filter_nil,
        List.append_nil]
    | true =>
      have hkept : keep (v.resolve fun name => (textOf? (resolveReferences surroundings vars)
          name).or (textOf? (surroundingVariables surroundings) name)).name = true := hkeep
      rw [hkept, if_pos rfl, if_pos rfl, List.filter_nil, resolveReferences_append_singleton,
        resolveNext]
      -- A kept one refers to no name that is left out, so what is left out is never looked up.
      refine congrArg (setVariable _) (FileVariable.resolve_congr fun name hname => ?_)
      rw [hinit, textOf?_filter]
      intro w hw hleft heq
      obtain ⟨u, hu, hsame⟩ := exists_of_mem_resolveReferences hw
      rw [← hsame] at hleft heq
      exact h v (List.mem_append_right _ (List.mem_singleton_self v)) hkeep u
        (List.mem_append_left _ hu) hleft (heq ▸ hname)

end

end RecordSearch
