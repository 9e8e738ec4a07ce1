import RecordSearch.Logging.Level
import RecordSearch.Text.UpperCase

namespace RecordSearch

/-!
# The level that a text names

A text names a level by its upper case. The names of levels are ASCII, and so it is enough to know
the upper case of a text as far as it is ASCII.

* `SameInAscii`: texts that are the same, or both of which hold a character outside ASCII;
* `sameInAscii_upper`: the upper case of a text, as far as it is ASCII;
* `levelNumbers`, `otherNames`: the names of levels, and the names of other things in upper case;
* `LevelFor`, `levelFor_levelOf`: the level that a text stands for, by its full upper case.
-/

/-! ### Upper case as far as it is ASCII -/

/-- **The same in ASCII**: equal, or with a character outside ASCII in each of the two. -/
def SameInAscii (cs ds : List Char) : Prop :=
  cs = ds ∨ (∃ c ∈ cs, 0x80 ≤ c.toNat) ∧ ∃ d ∈ ds, 0x80 ≤ d.toNat

/-- Texts are the same in ASCII if they are so character by character. -/
theorem sameInAscii_flatMap {f g : Char → List Char} (h : ∀ c, SameInAscii (f c) (g c))
    (cs : List Char) : SameInAscii (cs.flatMap f) (cs.flatMap g) := by
  induction cs with
  | nil => exact .inl rfl
  | cons first cs ih =>
    rw [List.flatMap_cons, List.flatMap_cons]
    -- Once both hold a character outside ASCII, what else they hold does not matter.
    rcases h first with hfirst | ⟨⟨c, hc, hcode⟩, d, hd, hcode'⟩
    · rcases ih with hrest | ⟨⟨c, hc, hcode⟩, d, hd, hcode'⟩
      · exact .inl (by rw [hfirst, hrest])
      · exact .inr ⟨⟨c, List.mem_append_right _ hc, hcode⟩, d, List.mem_append_right _ hd, hcode'⟩
    · exact .inr ⟨⟨c, List.mem_append_left _ hc, hcode⟩, d, List.mem_append_left _ hd, hcode'⟩

/-- The characters outside ASCII whose upper case is ASCII: the sharp S, the dotless I, the long S
    and the ligatures. -/
def asciiUppered : List Nat :=
  [0xDF, 0x131, 0x17F, 0xFB00, 0xFB01, 0xFB02, 0xFB03, 0xFB04, 0xFB05, 0xFB06]

/-- All other sequences have a character outside ASCII. -/
theorem foreign_upperSequences : ∀ e ∈ Text.upperSequences,
    e.1 ∈ asciiUppered ∨ ∃ code ∈ e.2, 0x80 ≤ (Char.ofNat code).toNat := by
  decide

/-- The ranges are those of ASCII, of single characters with an upper case in ASCII, and those that
    are mapped to characters outside ASCII, none of which is a surrogate. -/
theorem foreign_upperRanges : ∀ range ∈ Text.upperRanges,
    range.last < 0x80 ∨ (range.first ∈ asciiUppered ∧ range.last = range.first)
      ∨ ((0x80 : Int) ≤ range.first + range.shift ∧ (range.last : Int) + range.shift < 0xD800)
      ∨ ((0xE000 : Int) ≤ range.first + range.shift
        ∧ (range.last : Int) + range.shift < 0x110000) := by
  decide +kernel

/-- What is mapped by a range that leads out of ASCII stays outside. -/
theorem le_toNat_ofNat {code : Nat} (h : 0x80 ≤ code)
    (hvalid : code < 0xD800 ∨ 0xE000 ≤ code ∧ code < 0x110000) :
    0x80 ≤ (Char.ofNat code).toNat := by
  have hcode : code.isValidChar := by
    unfold Nat.isValidChar
    omega
  rw [Char.ofNat, dif_pos hcode]
  exact h

/-- Any other character outside ASCII has an upper case that does not lie within ASCII. -/
theorem foreign_upperOf {c : Char} (hc : 0x80 ≤ c.toNat) (hnot : c.toNat ∉ asciiUppered) :
    ∃ d ∈ Text.upperOf c, 0x80 ≤ d.toNat := by
  rw [Text.upperOf]
  cases hsequence : Text.upperSequences.lookup c.toNat with
  | some codes =>
    obtain ⟨before, after, heq, -⟩ := List.lookup_eq_some_iff.1 hsequence
    have hmem : (c.toNat, codes) ∈ Text.upperSequences := by
      rw [heq]
      exact List.mem_append_right _ List.mem_cons_self
    rcases foreign_upperSequences _ hmem with hascii | ⟨code, hcode, hle⟩
    · exact absurd hascii hnot
    · exact ⟨_, List.mem_map_of_mem hcode, hle⟩
  | none =>
    cases hrange : Text.upperRanges.find? (·.holds c.toNat) with
    | none => exact ⟨c, List.mem_singleton_self c, hc⟩
    | some range =>
      refine ⟨_, List.mem_singleton_self _, ?_⟩
      have hholds := List.find?_some hrange
      simp only [Text.CaseRange.holds, Bool.and_eq_true, decide_eq_true_eq] at hholds
      obtain ⟨⟨hfirst, hlast⟩, -⟩ := hholds
      -- The range lies within ASCII, is one of the exceptions, or leads out of ASCII.
      rcases foreign_upperRanges _ (List.mem_of_find?_eq_some hrange) with hascii |
        ⟨hascii, hsingle⟩ | ⟨hlow, hhigh⟩ | ⟨hlow, hhigh⟩
      · omega
      · have hsame : c.toNat = range.first := by omega
        exact absurd (hsame ▸ hascii) hnot
      · exact le_toNat_ofNat (by omega) (by omega)
      · exact le_toNat_ofNat (by omega) (by omega)

/-- Any other character outside ASCII is left as it is. -/
theorem upperChar_of_foreign {c : Char} (hc : 0x80 ≤ c.toNat) (hnot : c.toNat ∉ asciiUppered) :
    upperChar c = [c] := by
  unfold upperChar
  rw [if_neg (Nat.not_lt.2 hc)]
  split
  case h_11 => rfl
  all_goals exact absurd (by decide) hnot

/-- The range of the small letters of ASCII. -/
def smallLetters : Text.CaseRange := ⟨0x61, 0x7A, 1, -32⟩

/-- Within ASCII only the small letters have an upper case. -/
theorem upperTables_within_ascii : (∀ e ∈ Text.upperSequences, 0x80 ≤ e.1)
    ∧ Text.upperRanges = smallLetters :: Text.upperRanges.tail
    ∧ ∀ range ∈ Text.upperRanges.tail, 0x80 ≤ range.first :=
  ⟨by decide, rfl, by decide +kernel⟩

/-- The full mapping on ASCII. -/
theorem upperOf_of_ascii {c : Char} (hc : c.toNat < 0x80) :
    Text.upperOf c =
      if smallLetters.holds c.toNat then [Char.ofNat (c.toNat - 0x20 : Int).toNat] else [c] := by
  obtain ⟨hsequences, hranges, hforeign⟩ := upperTables_within_ascii
  -- The other tables have no rows among these letters, so that only the first range counts.
  have hnone : Text.upperSequences.lookup c.toNat = none := by
    refine List.lookup_eq_none_iff.2 fun e he => ?_
    have hle := hsequences e he
    exact bne_iff_ne.2 (by omega)
  have hrest : Text.upperRanges.tail.find? (·.holds c.toNat) = none := by
    refine List.find?_eq_none.2 fun range hmem hholds => ?_
    have hle := hforeign range hmem
    simp only [Text.CaseRange.holds, Bool.and_eq_true, decide_eq_true_eq] at hholds
    omega
  rw [Text.upperOf, hnone, hranges, List.find?_cons, hrest]
  cases smallLetters.holds c.toNat with
  | true => rfl
  | false => rfl

/-- The upper case of ASCII is that of the full mapping, and so it is for the characters whose
    upper case is ASCII. -/
theorem upperChar_eq_upperOf {c : Char} (hc : c.toNat < 0x80 ∨ c.toNat ∈ asciiUppered) :
    upperChar c = Text.upperOf c := by
  have hascii : ∀ code < 0x80, upperChar (Char.ofNat code) =
      if smallLetters.holds code then [Char.ofNat (code - 0x20 : Int).toNat]
      else [Char.ofNat code] := by
    decide +kernel
  have huppered : ∀ code ∈ asciiUppered,
      upperChar (Char.ofNat code) = Text.upperOf (Char.ofNat code) := by
    decide +kernel
  rcases hc with hc | hc
  · rw [upperOf_of_ascii hc, ← Char.ofNat_toNat c, hascii _ hc, Char.ofNat_toNat]
  · rw [← Char.ofNat_toNat c]
    exact huppered _ hc

/-- The upper case of a text as far as it is ASCII is that of the full mapping. -/
theorem sameInAscii_upper (text : String) :
    SameInAscii (upperWord text).toList (Text.upper text).toList := by
  rw [upperWord, Text.upper, String.toList_ofList, String.toList_ofList]
  refine sameInAscii_flatMap (fun c => ?_) _
  by_cases hc : c.toNat < 0x80 ∨ c.toNat ∈ asciiUppered
  · exact .inl (upperChar_eq_upperOf hc)
  · obtain ⟨hforeign, hnot⟩ := not_or.1 hc
    have hforeign : 0x80 ≤ c.toNat := Nat.not_lt.1 hforeign
    refine .inr ⟨⟨c, ?_, hforeign⟩, foreign_upperOf hforeign hnot⟩
    rw [upperChar_of_foreign hforeign hnot]
    exact List.mem_singleton_self c

/-! ### Names -/

/-- The names of levels with their numbers. -/
def levelNumbers : List (String × Nat) :=
  [("CRITICAL", 50), ("FATAL", 50), ("ERROR", 40), ("WARNING", 30), ("WARN", 30), ("INFO", 20),
    ("DEBUG", 10), ("NOTSET", 0)]

/-- The names in upper case of what is no level, with the errors that they lead to: those of a
    format for lines and of the table of styles. -/
def otherNames : List (String × Error) :=
  [("BASIC_FORMAT", .notALevel "%(levelname)s:%(name)s:%(message)s"), ("_STYLES", .wrongType)]

/-- **The level for a name**: that of the name, an error if the name is that of something else, and
    the level of information if it names nothing. -/
inductive LevelFor (name : String) : Except Error Nat → Prop where
  | named {number : Nat} (h : (name, number) ∈ levelNumbers) : LevelFor name (.ok number)
  | other {e : Error} (h : (name, e) ∈ otherNames) : LevelFor name (.error e)
  | usual (hlevel : ∀ number, (name, number) ∉ levelNumbers)
      (hother : ∀ e, (name, e) ∉ otherNames) :
      LevelFor name (.ok infoLevel)

/-- The level that stands for what a name names. -/
def LevelName.level? : LevelName → Except Error Nat
  | .level number => .ok number
  | .nothing => .ok infoLevel
  | .text format => .error (.notALevel format)
  | .styles => .error .wrongType

/-- The names in the tables name what stands beside them. -/
theorem levelNamed_of_mem : (∀ e ∈ levelNumbers, levelNamed e.1 = .level e.2)
    ∧ ∀ e ∈ otherNames, levelNamed e.1 ≠ .nothing := by
  refine ⟨by decide, ?_⟩
  simp [otherNames, levelNamed]

/-- What a name names stands for the level for that name. -/
theorem levelFor_levelNamed (name : String) : LevelFor name (levelNamed name).level? := by
  by_cases hnothing : levelNamed name = .nothing
  · rw [hnothing]
    refine .usual (fun number hmem => ?_) fun e hmem => levelNamed_of_mem.2 _ hmem hnothing
    cases hnothing.symm.trans (levelNamed_of_mem.1 _ hmem)
  · revert hnothing
    unfold levelNamed
    split
    -- The ninth and the tenth name are those of something else, and the rest name levels.
    case h_9 => exact fun _ => .other List.mem_cons_self
    case h_10 => exact fun _ => .other (List.mem_cons_of_mem _ List.mem_cons_self)
    case h_11 => exact fun hnothing => absurd rfl hnothing
    all_goals exact fun _ => .named (by decide)

/-- A name with a character outside ASCII names nothing. -/
theorem levelNamed_of_foreign {name : String} (h : ∃ c ∈ name.toList, 0x80 ≤ c.toNat) :
    levelNamed name = .nothing := by
  obtain ⟨c, hc, hcode⟩ := h
  have hascii : ∀ other : String, (other.toList.all fun c => decide (c.toNat < 0x80)) = true →
      name ≠ other := by
    rintro other hall rfl
    have hlt := of_decide_eq_true (List.all_eq_true.1 hall c hc)
    omega
  unfold levelNamed
  split
  case h_11 => rfl
  all_goals exact absurd rfl (hascii _ (by decide))

/-- **A text stands for the level for its upper case**, by the full mapping. -/
theorem levelFor_levelOf (text : String) : LevelFor (Text.upper text) (levelOf text) := by
  have hword : levelNamed (upperWord text) = levelNamed (Text.upper text) := by
    rcases sameInAscii_upper text with hsame | ⟨hword, hupper⟩
    · rw [String.toList_inj.1 hsame]
    · rw [levelNamed_of_foreign hword, levelNamed_of_foreign hupper]
  have hlevel : levelOf text = (levelNamed (Text.upper text)).level? := by
    rw [← hword]
    rfl
  rw [hlevel]
  exact levelFor_levelNamed _

/-- No name is that of a level and of something else. -/
theorem notMem_otherNames {name : String} {number : Nat} (h : (name, number) ∈ levelNumbers)
    (e : Error) : (name, e) ∉ otherNames := by
  have hapart : ∀ level ∈ levelNumbers, ∀ other ∈ otherNames, level.1 ≠ other.1 := by decide
  exact fun hother => hapart _ h _ hother rfl

/-- A name of something else leads to one error and to no level. -/
theorem LevelFor.eq_error {name : String} {outcome : Except Error Nat} (h : LevelFor name outcome)
    {e : Error} (hother : (name, e) ∈ otherNames) : outcome = .error e := by
  cases h with
  | named hlevel => exact absurd hother (notMem_otherNames hlevel e)
  | @other e' hother' =>
    have hsame : e' = e := by
      simp only [otherNames, List.mem_cons, Prod.mk.injEq, List.not_mem_nil, or_false] at hother
      rcases hother with ⟨rfl, rfl⟩ | ⟨rfl, rfl⟩ <;> simpa [otherNames] using hother'
    rw [hsame]
  | usual _ hnone => exact absurd hother (hnone e)

end RecordSearch
