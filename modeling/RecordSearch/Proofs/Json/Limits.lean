import RecordSearch.Proofs.Json.Grammar

namespace RecordSearch.Json

/-!
# The limits of the reader

A text that is no JSON text is malformed, or it goes beyond a limit. The second happens only where
there is enough in the text to go beyond it: more opening signs than levels are allowed, or more
digits than an integer may have.

* `Accounts`: what a text holds, if it has a problem;
* `accounts_of_readChars`: each problem that is met is accounted for;
* `IsWithinLimits`: a text that does not go beyond a limit.
-/

/-- The signs that open a level. -/
def opensLevel (c : Char) : Bool := c == '[' || c == '\x7b'

/-- **What accounts for a problem**: for values that are too deep, more opening signs than levels,
    and for an integer that is too long, more digits than it may have. -/
def Accounts (depth : Nat) (cs : List Char) : Problem → Prop
  | .malformed _ _ => True
  | .tooManyDigits _ => Decimal.digitLimit < cs.countP Char.isDigit
  | .tooDeep _ => depth < cs.countP opensLevel

/-- What accounts for a problem at the end of a text does so in the text. -/
theorem Accounts.of_suffix {depth : Nat} {cs ds : List Char} {problem : Problem}
    (h : Accounts depth cs problem) (hsuffix : cs <:+ ds) : Accounts depth ds problem := by
  cases problem with
  | malformed fault left => trivial
  | tooManyDigits digits => exact Nat.lt_of_lt_of_le h (hsuffix.sublist.countP_le)
  | tooDeep nesting => exact Nat.lt_of_lt_of_le h (hsuffix.sublist.countP_le)

/-- After an opening sign there is a level less. -/
theorem Accounts.cons {depth : Nat} {cs : List Char} {problem : Problem}
    (h : Accounts depth cs problem) {sign : Char} (hsign : opensLevel sign = true) :
    Accounts (depth + 1) (sign :: cs) problem := by
  cases problem with
  | malformed fault left => trivial
  | tooManyDigits digits => exact Nat.lt_of_lt_of_le h (List.sublist_cons_self _ _).countP_le
  | tooDeep nesting =>
    rw [Accounts, List.countP_cons_of_pos hsign]
    exact Nat.add_lt_add_right h 1

/-- The text without the spaces at its start is an end of it. -/
theorem skipSpace_suffix (cs : List Char) : skipSpace cs <:+ cs := List.dropWhile_suffix _

/-- What comes after spaces and a sign is an end of the text. -/
theorem suffix_of_skipSpace {cs rest : List Char} {sign : Char}
    (h : skipSpace cs = sign :: rest) : rest <:+ cs :=
  (h ▸ List.suffix_cons sign rest : rest <:+ skipSpace cs).trans (skipSpace_suffix cs)

/-- What is left after a part is an end of the text. -/
theorem ReadsParts.suffix {α : Type} {depth : Nat} {part : α → Part}
    {reader : List Char → Except Problem (α × List Char)} (h : ReadsParts depth part reader)
    {cs rest : List Char} {a : α} (hread : reader cs = .ok (a, rest)) : rest <:+ cs := by
  obtain ⟨text, rfl, -⟩ := h cs a rest hread
  exact List.suffix_append text rest

/-! ### String literals and numbers -/

/-- A problem with a unit in front comes from one without. -/
theorem inFront_eq_error {unit : Nat} {reading : Except Problem (List Nat × List Char)}
    {problem : Problem} (h : inFront unit reading = .error problem) :
    reading = .error problem := by
  cases reading with
  | ok reading => cases h
  | error found =>
    cases h
    rfl

/-- Code units are malformed, or they are read. -/
theorem exists_malformed_of_readUnits {cs : List Char} {problem : Problem}
    (h : readUnits cs = .error problem) : ∃ fault left, problem = .malformed fault left := by
  -- Along the cases of the reader: a fault is made where it is met, or comes from the rest.
  induction cs using readUnits.induct with
  | case1 | case2 =>
    cases h
    exact ⟨_, _, rfl⟩
  | case3 cs => cases h
  | case4 a b c d unit head tail hunit ih =>
    rw [readUnits.eq_4 _ _ _ _ _ _ _ hunit] at h
    exact ih (inFront_eq_error h)
  | case5 a b c d cs hno =>
    rw [readUnits.eq_5 _ _ _ _ _ hno] at h
    cases h
    exact ⟨_, _, rfl⟩
  | case6 cs hno =>
    rw [readUnits.eq_6 _ hno] at h
    cases h
    exact ⟨_, _, rfl⟩
  | case7 e cs hno hu c hescape ih =>
    rw [readUnits.eq_7 _ _ hno hu, hescape] at h
    exact ih (inFront_eq_error h)
  | case8 e cs hno hu hescape =>
    rw [readUnits.eq_7 _ _ hno hu, hescape] at h
    cases h
    exact ⟨_, _, rfl⟩
  | case9 c cs hlast hquote hdigits hu hletter hcontrol =>
    rw [readUnits.eq_8 _ _ hlast hquote hdigits hu hletter, if_pos hcontrol] at h
    cases h
    exact ⟨_, _, rfl⟩
  | case10 c cs hlast hquote hdigits hu hletter hcontrol ih =>
    rw [readUnits.eq_8 _ _ hlast hquote hdigits hu hletter, if_neg hcontrol] at h
    exact ih (inFront_eq_error h)

/-- A string literal is malformed, or it is read. -/
theorem exists_malformed_of_readString {cs : List Char} {problem : Problem}
    (h : readString cs = .error problem) : ∃ fault left, problem = .malformed fault left := by
  unfold readString at h
  split at h
  · cases h
  · cases h
    exact ⟨_, _, rfl⟩
  · rename_i hunits
    cases h
    exact exists_malformed_of_readUnits hunits

/-- A number with given parts has a value, unless it is an integer with too many digits. -/
theorem of_numberOf_eq_error {negative : Bool} {whole : List Char}
    {fraction : Option (List Char)} {power : Option Int} {problem : Problem}
    (h : numberOf negative whole fraction power = .error problem) :
    problem = .tooManyDigits whole.length ∧ Decimal.digitLimit < whole.length := by
  unfold numberOf at h
  split at h
  · split at h
    · rename_i hlimit
      cases h
      exact ⟨rfl, hlimit⟩
    · cases h
  · cases h

/-- The digits before the point are digits. -/
theorem IsWhole.isDigit {whole : List Char} (h : IsWhole whole) :
    ∀ d ∈ whole, d.isDigit = true := by
  cases h with
  | zero =>
    intro d hd
    rw [List.mem_singleton.1 hd]
    rfl
  | digits h => exact h.2

/-- A number after its sign is malformed, or has too many digits, or it is read. -/
theorem accounts_of_readUnsigned {depth : Nat} {negative : Bool} {cs : List Char}
    {problem : Problem} (h : readUnsigned negative cs = .error problem) :
    Accounts depth cs problem := by
  rw [readUnsigned_eq] at h
  rcases hspan : spanWhole cs with ⟨whole, left⟩
  rw [hspan] at h
  dsimp only at h
  by_cases hempty : whole.isEmpty = true
  · rw [if_pos hempty] at h
    cases h
    trivial
  · rw [if_neg hempty] at h
    obtain ⟨rfl, hwhole⟩ := of_spanWhole_eq hspan fun hnil => hempty (List.isEmpty_iff.2 hnil)
    cases hvalue : numberOf negative whole (spanFraction left).1
        (Decimal.spanPower (spanFraction left).2).1 with
    | ok v =>
      rw [hvalue] at h
      cases h
    | error found =>
      rw [hvalue] at h
      cases h
      obtain ⟨rfl, hlimit⟩ := of_numberOf_eq_error hvalue
      -- All characters before the fault are digits, and they are too many.
      have hcount : whole.countP Char.isDigit = whole.length :=
        List.countP_eq_length.2 hwhole.isDigit
      rw [Accounts, List.countP_append, hcount]
      exact Nat.lt_add_right _ hlimit

/-- A number is malformed, or has too many digits, or it is read. -/
theorem accounts_of_readNumber {depth : Nat} {cs : List Char} {problem : Problem}
    (h : readNumber cs = .error problem) : Accounts depth cs problem := by
  unfold readNumber at h
  split at h
  · exact (accounts_of_readUnsigned h).of_suffix (List.suffix_cons _ _)
  · exact accounts_of_readUnsigned h

/-! ### Values -/

/-- Whatever problem a reader meets is accounted for. -/
def IsAccounted {α : Type} (depth : Nat)
    (reader : List Char → Except Problem (α × List Char)) : Prop :=
  ∀ cs problem, reader cs = .error problem → Accounts depth cs problem

/-- The problems of a value are accounted for if those of items and entries are, which have a
    level less. -/
theorem isAccounted_readValue {fuel : Nat}
    (hitems : ∀ depth, IsAccounted depth (readItems fuel depth))
    (hentries : ∀ depth, IsAccounted depth (readEntries fuel depth)) (depth : Nat) :
    IsAccounted depth (readValue (fuel + 1) depth) := by
  intro cs problem h
  unfold readValue at h
  split at h
  · contradiction
  · rcases bind_eq_error_iff.1 h with h | ⟨_, _, h⟩
    · obtain ⟨fault, left, rfl⟩ := exists_malformed_of_readString h
      trivial
    · cases h
  · cases h
    -- Where no level is left, the opening sign is the one that is too many.
    exact List.countP_pos_iff.2 ⟨_, List.mem_cons_self, rfl⟩
  · rename_i hfuel
    cases hfuel
    split at h
    · cases h
    · rcases bind_eq_error_iff.1 h with h | ⟨_, _, h⟩
      · exact ((hitems _ _ _ h).of_suffix (skipSpace_suffix _)).cons rfl
      · cases h
  · cases h
    exact List.countP_pos_iff.2 ⟨_, List.mem_cons_self, rfl⟩
  · rename_i hfuel
    cases hfuel
    split at h
    · cases h
    · rcases bind_eq_error_iff.1 h with h | ⟨_, _, h⟩
      · exact ((hentries _ _ _ h).of_suffix (skipSpace_suffix _)).cons rfl
      · cases h
  · split at h
    · cases h
    · exact accounts_of_readNumber h

/-- The problems of items are accounted for if those of a value and of later items are. -/
theorem isAccounted_readItems {fuel depth : Nat}
    (hvalue : IsAccounted depth (readValue fuel depth))
    (hitems : IsAccounted depth (readItems fuel depth)) :
    IsAccounted depth (readItems (fuel + 1) depth) := by
  intro cs problem h
  rw [readItems] at h
  rcases bind_eq_error_iff.1 h with hfails | ⟨⟨v, left⟩, hread, hends⟩
  · exact hvalue _ _ hfails
  · -- What comes after the first item is an end of the text, since the item is of the grammar.
    have hleft : left <:+ cs := (readsParts fuel depth).1.suffix hread
    dsimp only at hends
    split at hends
    · cases hends
    · rename_i after hskip
      rcases bind_eq_error_iff.1 hends with hfails | ⟨_, _, hends⟩
      · refine (hitems _ _ hfails).of_suffix ((skipSpace_suffix after).trans ?_)
        exact (suffix_of_skipSpace hskip).trans hleft
      · cases hends
    · cases hends
      trivial

/-- The problems of entries are accounted for if those of a value and of later entries are. -/
theorem isAccounted_readEntries {fuel depth : Nat}
    (hvalue : IsAccounted depth (readValue fuel depth))
    (hentries : IsAccounted depth (readEntries fuel depth)) :
    IsAccounted depth (readEntries (fuel + 1) depth) := by
  intro cs problem h
  unfold readEntries at h
  split at h
  · contradiction
  · rename_i hfuel
    cases hfuel
    rcases bind_eq_error_iff.1 h with hfails | ⟨⟨codes, left⟩, hkey, hcolon⟩
    · obtain ⟨fault, left, rfl⟩ := exists_malformed_of_readString hfails
      trivial
    · obtain ⟨key, rfl, -⟩ := readString_eq_ok_iff.1 hkey
      -- Each later part reads an end of the text, which opens no more levels than the whole.
      have hleft : left <:+ '"' :: (key ++ '"' :: left) :=
        ((List.suffix_cons _ _).trans (List.suffix_append _ _)).trans (List.suffix_cons _ _)
      dsimp only at hcolon
      split at hcolon
      · rename_i after hskip
        have hafter : skipSpace after <:+ '"' :: (key ++ '"' :: left) :=
          ((skipSpace_suffix after).trans (suffix_of_skipSpace hskip)).trans hleft
        rcases bind_eq_error_iff.1 hcolon with hfails | ⟨⟨v, rest⟩, hread, hends⟩
        · exact (hvalue _ _ hfails).of_suffix hafter
        · have hrest := ((readsParts fuel _).1.suffix hread).trans hafter
          dsimp only at hends
          split at hends
          · cases hends
          · rename_i others hskip
            rcases bind_eq_error_iff.1 hends with hfails | ⟨_, _, hends⟩
            · refine (hentries _ _ hfails).of_suffix ((skipSpace_suffix others).trans ?_)
              exact (suffix_of_skipSpace hskip).trans hrest
            · cases hends
          · cases hends
            trivial
      · cases hcolon
        trivial
  · cases h
    trivial

/-- **Problems are accounted for**, in values, in items and in entries. -/
theorem isAccounted (fuel depth : Nat) :
    IsAccounted depth (readValue fuel depth) ∧ IsAccounted depth (readItems fuel depth)
      ∧ IsAccounted depth (readEntries fuel depth) := by
  induction fuel generalizing depth with
  | zero =>
    refine ⟨?_, ?_, ?_⟩
    · intro cs problem h
      rw [readValue] at h
      cases h
      trivial
    · intro cs problem h
      rw [readItems] at h
      cases h
      trivial
    · intro cs problem h
      rw [readEntries] at h
      cases h
      trivial
  | succ fuel ih =>
    obtain ⟨hvalue, hitems, hentries⟩ := ih depth
    -- Items and entries are read at the same depth, but those of a value at another one.
    refine ⟨?_, isAccounted_readItems hvalue hitems, isAccounted_readEntries hvalue hentries⟩
    exact isAccounted_readValue (fun depth => (ih depth).2.1) (fun depth => (ih depth).2.2) depth

/-- **The problems of whole texts** are accounted for. -/
theorem accounts_of_readChars {depth : Nat} {cs : List Char} {problem : Problem}
    (h : readChars depth cs = .error problem) : Accounts depth cs problem := by
  rcases bind_eq_error_iff.1 h with hfails | ⟨_, _, hends⟩
  · exact ((isAccounted _ depth).1 _ _ hfails).of_suffix (skipSpace_suffix cs)
  · dsimp only at hends
    split at hends
    · cases hends
    · cases hends
      trivial

/-- A text that is read with so many levels, or is malformed: no value that is met in it is too
    deep, and no integer has too many digits. -/
def IsWithinLimits (depth : Nat) (text : String) : Prop :=
  ∀ problem, read depth text = .error problem → ∃ fault left, problem = .malformed fault left

/-- A text with no more opening signs than levels, and no more digits than an integer may have,
    does not go beyond a limit. -/
theorem isWithinLimits_of_counts {depth : Nat} {text : String}
    (hlevels : text.toList.countP opensLevel ≤ depth)
    (hdigits : text.toList.countP Char.isDigit ≤ Decimal.digitLimit) :
    IsWithinLimits depth text := by
  intro problem h
  have haccounts : Accounts depth text.toList problem := accounts_of_readChars h
  cases problem with
  | malformed fault left => exact ⟨fault, left, rfl⟩
  | tooManyDigits digits => exact absurd haccounts (Nat.not_lt.2 hdigits)
  | tooDeep nesting => exact absurd haccounts (Nat.not_lt.2 hlevels)

end RecordSearch.Json
