import RecordSearch.Proofs.Value.Keyed
import Mathlib.Data.List.Forall2

namespace RecordSearch

/-!
# Values that are equal

Two values that were made apart from each other are compared part by part. The order in which the
keys of a mapping were given does not count, that of the members of a list does. How the values that
hold no others compare is left open (an integer may equal a truth value, a number that is none may
differ from itself), apart from texts and integers, which are equal if they are the same.

* `Value.EqualBy`: values that are equal, given when atoms are;
* `ComparesAtoms`: what is asked of the comparison of atoms;
* `equalBy_mapping_iff`, `equalBy_list_iff`, `equalBy_str_iff`, `equalBy_int_iff`: equal values
  taken apart.
-/

namespace Value

/-- Does the value hold no other values, or only such as belong to a set? -/
def isAtom : Value → Bool
  | .list _ | .tuple _ | .mapping _ | .brokenMapping _ => false
  | _ => true

/-- **Equal values.** Atoms are compared by `atom`, lists and tuples member by member, and mappings
    key by key. -/
inductive EqualBy (atom : Value → Value → Prop) : Value → Value → Prop where
  | atom {v w : Value} (hv : v.isAtom = true) (hw : w.isAtom = true) (h : atom v w) :
      EqualBy atom v w
  | list {vs ws : List Value} (h : List.Forall₂ (EqualBy atom) vs ws) :
      EqualBy atom (.list vs) (.list ws)
  | tuple {vs ws : List Value} (h : List.Forall₂ (EqualBy atom) vs ws) :
      EqualBy atom (.tuple vs) (.tuple ws)
  | mapping {d e : Document} (h : ∀ key, Option.Rel (EqualBy atom) (d.get? key) (e.get? key)) :
      EqualBy atom (.mapping d) (.mapping e)
  | brokenMapping {d e : List (List Nat × Value)}
      (h : ∀ key, Option.Rel (EqualBy atom) (d.lookup key) (e.lookup key)) :
      EqualBy atom (.brokenMapping d) (.brokenMapping e)

end Value

/-- **A comparison of atoms** for which texts and integers are equal if they are the same. -/
structure ComparesAtoms (atom : Value → Value → Prop) : Prop where
  text : ∀ s t, atom (.str s) (.str t) ↔ s = t
  integer : ∀ m n, atom (.int m) (.int n) ↔ m = n

/-- Keys are compared in this way. -/
theorem comparesAtoms_sameKey : ComparesAtoms fun v w => v.sameKey w = true where
  text s t := by rw [sameKey_str_iff, Value.str.injEq]
  integer m n := by simp [Value.sameKey, Value.integral?]

variable {atom : Value → Value → Prop}

/-! ### Equal values taken apart -/

/-- Texts are equal if they are the same. -/
theorem equalBy_str_iff (h : ComparesAtoms atom) (s t : String) :
    (Value.str s).EqualBy atom (.str t) ↔ s = t := by
  constructor
  · intro heq
    cases heq with
    | atom _ _ hst => exact (h.text s t).1 hst
  · intro hst
    exact .atom rfl rfl ((h.text s t).2 hst)

/-- Integers are equal if they are the same. -/
theorem equalBy_int_iff (h : ComparesAtoms atom) (m n : Int) :
    (Value.int m).EqualBy atom (.int n) ↔ m = n := by
  constructor
  · intro heq
    cases heq with
    | atom _ _ hmn => exact (h.integer m n).1 hmn
  · intro hmn
    exact .atom rfl rfl ((h.integer m n).2 hmn)

/-- Lists are equal if their members are, one by one. -/
theorem equalBy_list_iff (vs ws : List Value) :
    (Value.list vs).EqualBy atom (.list ws) ↔ List.Forall₂ (Value.EqualBy atom) vs ws := by
  constructor
  · intro heq
    cases heq with
    | atom hv _ _ => cases hv
    | list hall => exact hall
  · exact .list

/-- Mappings are equal if they have equal values at each key. -/
theorem equalBy_mapping_iff (d e : Document) :
    (Value.mapping d).EqualBy atom (.mapping e) ↔
      ∀ key, Option.Rel (Value.EqualBy atom) (d.get? key) (e.get? key) := by
  constructor
  · intro heq
    cases heq with
    | atom hv _ _ => cases hv
    | mapping hall => exact hall
  · exact .mapping

/-- Mappings with one entry are equal if the keys are the same and the values are equal. -/
theorem equalBy_entry_iff (key other : String) (v w : Value) :
    (Value.mapping [(key, v)]).EqualBy atom (.mapping [(other, w)]) ↔
      key = other ∧ v.EqualBy atom w := by
  rw [equalBy_mapping_iff]
  constructor
  · intro hall
    have hkey := hall key
    simp only [Document.get?_cons, Document.get?_nil, if_true] at hkey
    by_cases h : key = other
    · rw [if_pos h, Option.rel_some_some] at hkey
      exact ⟨h, hkey⟩
    · rw [if_neg h] at hkey
      exact absurd hkey (by simp)
  · rintro ⟨rfl, hvalues⟩ k
    simp only [Document.get?_cons, Document.get?_nil]
    by_cases h : k = key
    · simpa only [if_pos h, Option.rel_some_some] using hvalues
    · simp only [if_neg h, Option.rel_none_none]

/-- Lists of texts are equal if they are the same. -/
theorem forall₂_equalBy_str_iff (h : ComparesAtoms atom) (names others : List String) :
    List.Forall₂ (Value.EqualBy atom) (names.map .str) (others.map .str) ↔ names = others := by
  simp only [List.forall₂_map_left_iff, List.forall₂_map_right_iff, equalBy_str_iff h,
    List.forall₂_eq_eq_eq]

end RecordSearch
