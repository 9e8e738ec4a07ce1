import RecordSearch.Proofs.Traversal
import RecordSearch.Settings.EnvFile

namespace RecordSearch

/-!
# Paths and the environment

The path of a file can start in the home directory of the own user, which a variable of the
environment says. Nothing else about files depends on the environment.

* `AvoidsHome`: no path that an option gives starts in the home directory of the own user;
* `envFileLines_of_avoidsHome`, `checkSecretDirectories_of_avoidsHome`: a variable of the
  environment changes nothing about the files, unless it is the one that is asked for.
-/

/-- A path in the home directory of the own user. -/
def Value.IsInOwnHome (v : Value) : Prop := ∃ path, v = .str path ∧ homeUser? path = some ""

/-- **The home directory is not asked for**: no path that an option gives is in that of the own
    user. -/
def AvoidsHome (option : Value) : Prop :=
  ∀ paths, pathValues option = .ok paths → ∀ path ∈ paths, ¬ path.IsInOwnHome

section

variable [Platform] {name : String}

/-- A variable of another name does not say where a home directory is. -/
theorem homeOf?_append_cons (hname : name ≠ homeName) (before after : Variables) (value : Value)
    (user : String) :
    homeOf? (before ++ (name, value) :: after) user = homeOf? (before ++ after) user := by
  have hlookup : (before ++ (name, value) :: after).lookup homeName =
      (before ++ after).lookup homeName := by
    rw [List.lookup_append, List.lookup_append, List.lookup_cons, beq_eq_false_iff_ne.2 hname.symm]
  rw [homeOf?, homeOf?, hlookup]

/-- The home directory of another user is not that of a variable. -/
theorem homeOf?_of_ne_own {user : String} (huser : user ≠ "")
    (environment environment' : Variables) :
    homeOf? environment user = homeOf? environment' user := by
  have hnamed : ¬ user.isEmpty = true := by rwa [String.isEmpty_iff]
  rw [homeOf?, homeOf?, if_neg hnamed, if_neg hnamed]

/-- **A path stays the same** with a variable of the environment, unless it is in the home directory
    that the variable says. -/
theorem pathOf_append_cons {path : Value} (h : name = homeName → ¬ path.IsInOwnHome)
    (before after : Variables) (value : Value) :
    pathOf (before ++ (name, value) :: after) path = pathOf (before ++ after) path := by
  cases path with
  | str path =>
    rw [pathOf, pathOf, expandPath, expandPath]
    cases huser : homeUser? path with
    | none => rfl
    | some user =>
      -- Only the own user is looked up by the variable, and such a path is excluded for its name.
      have hhome : homeOf? (before ++ (name, value) :: after) user =
          homeOf? (before ++ after) user := by
        by_cases hname : name = homeName
        · refine homeOf?_of_ne_own ?_ _ _
          rintro rfl
          exact h hname ⟨path, rfl, huser⟩
        · exact homeOf?_append_cons hname before after value user
      dsimp only
      rw [hhome]
  | _ => rfl

/-- The paths of an option that does not ask for the home directory stay the same. -/
theorem bind_paths_of_avoidsHome {α : Type} {option : Value}
    (h : name = homeName → AvoidsHome option) (before after : Variables) (value : Value)
    {f : Variables → Value → Except Error α}
    (hf : ∀ environment environment' path, pathOf environment path = pathOf environment' path →
      f environment path = f environment' path) :
    (pathValues option >>= List.mapM (f (before ++ (name, value) :: after))) =
      (pathValues option >>= List.mapM (f (before ++ after))) := by
  cases hpaths : pathValues option with
  | error e => rfl
  | ok paths =>
    refine mapM_congr_left fun path hpath => hf _ _ path ?_
    exact pathOf_append_cons (fun hname => h hname paths hpaths path hpath) before after value

/-- The lines at a path depend on the environment through the path alone. -/
theorem envFileLinesAt_congr {environment environment' : Variables} {path : Value}
    (h : pathOf environment path = pathOf environment' path) (files : Files)
    (encoding depth : Value) :
    envFileLinesAt files environment encoding depth path =
      envFileLinesAt files environment' encoding depth path := by
  rw [envFileLinesAt, envFileLinesAt, fileText?, fileText?, h]

/-- **The lines of the environment files** stay the same with a variable of the environment that
    their paths do not ask for. -/
theorem envFileLines_of_avoidsHome {option : Option Value}
    (h : name = homeName → AvoidsHome (option.getD .null)) (before after : Variables)
    (value : Value) (files : Files) (encoding depth : Value) :
    envFileLines files (before ++ (name, value) :: after) option encoding depth =
      envFileLines files (before ++ after) option encoding depth := by
  cases option with
  | none =>
    have husual : envFileLinesAt files (before ++ (name, value) :: after) encoding depth
          (.str envFilePath) =
        envFileLinesAt files (before ++ after) encoding depth (.str envFilePath) :=
      envFileLinesAt_congr rfl files encoding depth
    exact congrArg (([·]) <$> ·) husual
  | some v =>
    have hwalk := bind_paths_of_avoidsHome h before after value fun _ _ path hpath =>
      envFileLinesAt_congr hpath files encoding depth
    cases v with
    | null => rfl
    | _ => exact hwalk

/-- **The directories with secret settings** are found to be the same. -/
theorem checkSecretDirectories_of_avoidsHome {option : Value}
    (h : name = homeName → AvoidsHome option) (before after : Variables) (value : Value)
    (files : Files) :
    checkSecretDirectories files (before ++ (name, value) :: after) option =
      checkSecretDirectories files (before ++ after) option := by
  have hpaths : pathsOf (before ++ (name, value) :: after) option =
      pathsOf (before ++ after) option := by
    have hwalk := bind_paths_of_avoidsHome h before after value fun _ _ _ hpath => hpath
    exact congrArg (List.filterMap id <$> ·) hwalk
  unfold checkSecretDirectories
  cases option with
  | null => rfl
  | _ =>
    dsimp only
    rw [hpaths]

end

end RecordSearch
