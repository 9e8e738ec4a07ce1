import RecordSearch.Proofs.Search.Meaning
import RecordSearch.Proofs.Value.Equality

namespace RecordSearch

/-!
# The filters of constraints

The filters of a search are the clauses of its constraints, one after the other. What an entry adds
depends on that entry alone, and is one clause at most.

* `filtersOf`: the filters of constraints as they are sent;
* `Contribution`: the clauses that a constraint asks for, in a list (`contribution_clausesOf`);
* `AsksForNothing`: the constraints without a clause (`clausesOf_eq_nil_iff`);
* `AsksForRange`: the constraints that are a range, with the field, the symbol and the bound;
* `Restates`: another way to write the same constraint.

`filters_follow_constraints` says that filters are made entry by entry, and what can be had back
from them.
-/

/-- The filters of constraints as they are sent. -/
def filtersOf (wheres : Document) : List Value := (Clause.ofWheres wheres).map Clause.toValue

/-- The clauses of one constraint as they are sent. -/
def clausesOf (key : String) (constraint : Value) : List Value :=
  ((Clause.ofConstraint? key constraint).map Clause.toValue).toList

/-! ### What an entry adds -/

/-- **What an entry adds**: the clauses that its constraint asks for, which are one at most. -/
structure Contribution (entry : String × Value) (clauses : List Value) : Prop where
  asked : ∀ clause, clause ∈ clauses ↔ AsksFor entry.1 entry.2 clause
  atMostOne : clauses.length ≤ 1

/-- The clauses of a constraint are what its entry adds. -/
theorem contribution_clausesOf (entry : String × Value) :
    Contribution entry (clausesOf entry.1 entry.2) where
  asked clause := by
    rw [asksFor_iff, clausesOf, Option.mem_toList]
  atMostOne := by
    rw [clausesOf]
    cases Clause.ofConstraint? entry.1 entry.2 <;> simp

/-- Filters are made entry by entry. -/
theorem filtersOf_eq (wheres : Document) :
    filtersOf wheres = wheres.flatMap fun entry => clausesOf entry.1 entry.2 := by
  rw [filtersOf, Clause.ofWheres, List.map_filterMap, List.filterMap_eq_flatMap_toList]
  rfl

/-- The filters of an entry are its clauses. -/
theorem filtersOf_singleton (key : String) (constraint : Value) :
    filtersOf [(key, constraint)] = clausesOf key constraint := by
  rw [filtersOf_eq, List.flatMap_singleton]

/-- Filters of some constraints and of others that follow them. -/
theorem filtersOf_append (d e : Document) : filtersOf (d ++ e) = filtersOf d ++ filtersOf e := by
  simp only [filtersOf_eq, List.flatMap_append]

/-- Filters around one entry. -/
theorem filtersOf_between (before after : Document) (key : String) (constraint : Value) :
    filtersOf (before ++ (key, constraint) :: after) =
      filtersOf before ++ clausesOf key constraint ++ filtersOf after := by
  rw [filtersOf_append, List.append_assoc]
  simp only [filtersOf_eq, List.flatMap_cons]

/-- To set new keys is to put their entries behind. -/
theorem update_eq_append {d e : Document} (hkeys : e.keys.Nodup)
    (hdisjoint : ∀ key ∈ d.keys, key ∉ e.keys) : d.update e = d ++ e := by
  induction e generalizing d with
  | nil => rw [List.append_nil]; rfl
  | cons entry e ih =>
    obtain ⟨hfirst, hrest⟩ := List.nodup_cons.1 hkeys
    have hnew : entry.1 ∉ d.keys := fun hmem => hdisjoint _ hmem List.mem_cons_self
    show Document.update (d.insert entry.1 entry.2) e = _
    rw [insert_of_notMem hnew, ih hrest, List.append_assoc, List.singleton_append]
    -- The key that was set just now is none of those that are still to be set.
    intro key hmem
    rw [Document.keys, List.map_append] at hmem
    rcases List.mem_append.1 hmem with hmem | hmem
    · exact fun hlater => hdisjoint key hmem (List.mem_cons_of_mem _ hlater)
    · rw [List.mem_singleton.1 hmem]
      exact hfirst

/-! ### Constraints without a clause -/

/-- **A constraint that asks for nothing**: a mapping, a sequence of another length than two and
    three, or one of this length in which the field or the operator is no text or the operator is
    not known. -/
inductive AsksForNothing (constraint : Value) : Prop where
  | mapping (h : constraint.isMapping = true)
  | length {members : List Value} (hseq : constraint.sequence? = some members)
      (htwo : members.length ≠ 2) (hthree : members.length ≠ 3)
  | field {field op bound : Value} (hseq : constraint.sequence? = some [field, op, bound])
      (hfield : field.str? = none)
  | operator {front : List Value} {op bound : Value} (hfront : front.length ≤ 1)
      (hseq : constraint.sequence? = some (front ++ [op, bound])) (hop : op.str? = none)
  | unknown {front : List Value} {op bound : Value} {symbol : String} (hfront : front.length ≤ 1)
      (hseq : constraint.sequence? = some (front ++ [op, bound])) (hop : op.str? = some symbol)
      (hsymbol : ∀ comparison, (symbol, comparison) ∉ comparisons)

/-- A sequence that asks for something ends with a known operator and a bound, and has at most one
    text in front of them. -/
theorem AsksFor.exists_front {key : String} {constraint clause : Value} {members : List Value}
    (h : AsksFor key constraint clause) (hseq : constraint.sequence? = some members) :
    ∃ front op bound symbol comparison, members = front ++ [op, bound] ∧ front.length ≤ 1
      ∧ (∀ field ∈ front, ∃ name, field.str? = some name)
      ∧ op.str? = some symbol ∧ (symbol, comparison) ∈ comparisons := by
  cases h with
  | plain _ hplain =>
    rw [hplain] at hseq
    cases hseq
  | pair hpair hop hknown =>
    rw [hpair] at hseq
    cases hseq
    exact ⟨[], _, _, _, _, rfl, by simp, by simp, hop, hknown⟩
  | @triple field op bound name _ _ htriple hfield hop hknown =>
    rw [htriple] at hseq
    cases hseq
    exact ⟨[field], op, bound, _, _, rfl, by simp, by simpa using ⟨name, hfield⟩, hop, hknown⟩

/-- A constraint that asks for nothing asks for no clause. -/
theorem AsksForNothing.not_asksFor {constraint : Value} (h : AsksForNothing constraint)
    (key : String) (clause : Value) : ¬ AsksFor key constraint clause := by
  intro hasks
  -- Whatever asks for a clause has the form that the constraint is said not to have.
  cases h with
  | mapping hmap =>
    have hseq : constraint.sequence? = none := by
      cases constraint <;> simp_all [Value.isMapping, Value.sequence?]
    cases hasks with
    | plain hplain _ =>
      rw [hmap] at hplain
      cases hplain
    | pair hpair _ _ =>
      rw [hseq] at hpair
      cases hpair
    | triple htriple _ _ _ =>
      rw [hseq] at htriple
      cases htriple
  | length hseq htwo hthree =>
    obtain ⟨front, op, bound, _, _, rfl, hfront, -⟩ := hasks.exists_front hseq
    rw [List.length_append, List.length_cons, List.length_singleton] at htwo hthree
    omega
  | field hseq hfield =>
    obtain ⟨front, op, bound, _, _, heq, hfront, htexts, -⟩ := hasks.exists_front hseq
    have hlength : front.length = 1 := by simpa using (congrArg List.length heq).symm
    obtain ⟨first, rfl⟩ := List.length_eq_one_iff.1 hlength
    obtain ⟨rfl, -⟩ := List.cons.inj heq
    obtain ⟨name, hname⟩ := htexts _ (List.mem_singleton_self _)
    rw [hfield] at hname
    cases hname
  | operator hfront hseq hop =>
    obtain ⟨front, op, bound, _, _, heq, -, -, hsymbol, -⟩ := hasks.exists_front hseq
    obtain ⟨-, hlast⟩ := List.append_inj' heq rfl
    obtain ⟨rfl, -⟩ := List.cons.inj hlast
    rw [hop] at hsymbol
    cases hsymbol
  | unknown hfront hseq hop hunknown =>
    obtain ⟨front, op, bound, _, comparison, heq, -, -, hsymbol, hknown⟩ := hasks.exists_front hseq
    obtain ⟨-, hlast⟩ := List.append_inj' heq rfl
    obtain ⟨rfl, -⟩ := List.cons.inj hlast
    rw [hop] at hsymbol
    cases hsymbol
    exact hunknown comparison hknown

/-- A sequence that ends with an operator and a bound asks for nothing or for a range. -/
theorem asksForNothing_or_range (key : String) {constraint op bound : Value} {front : List Value}
    (hfront : front.length ≤ 1) (hseq : constraint.sequence? = some (front ++ [op, bound])) :
    AsksForNothing constraint ∨ ∃ clause, AsksFor key constraint clause := by
  cases hop : op.str? with
  | none => exact .inl (.operator hfront hseq hop)
  | some symbol =>
    by_cases hknown : ∃ comparison, (symbol, comparison) ∈ comparisons
    · obtain ⟨comparison, hknown⟩ := hknown
      -- The field is the key, or the text in front.
      match front, hfront, hseq with
      | [], _, hseq => exact .inr ⟨_, .pair hseq hop hknown⟩
      | [field], _, hseq =>
        cases hfield : field.str? with
        | none => exact .inl (.field hseq hfield)
        | some name => exact .inr ⟨_, .triple hseq hfield hop hknown⟩
    · exact .inl (.unknown hfront hseq hop fun comparison hmem => hknown ⟨comparison, hmem⟩)

/-- **A constraint without a clause** is one that asks for nothing. -/
theorem clausesOf_eq_nil_iff (key : String) (constraint : Value) :
    clausesOf key constraint = [] ↔ AsksForNothing constraint := by
  rw [List.eq_nil_iff_forall_not_mem]
  simp only [(contribution_clausesOf (key, constraint)).asked]
  constructor
  · intro hnone
    cases hmap : constraint.isMapping with
    | true => exact .mapping hmap
    | false =>
      cases hseq : constraint.sequence? with
      | none => exact absurd (.plain hmap hseq) (hnone _)
      | some members =>
        -- A comparison with its bound asks for a range, or says why not; other lengths ask for
        -- nothing.
        have hrange : ∀ front op bound, members = front ++ [op, bound] → front.length ≤ 1 →
            AsksForNothing constraint := by
          rintro front op bound rfl hfront
          refine (asksForNothing_or_range key hfront hseq).resolve_right ?_
          exact fun ⟨clause, hasks⟩ => hnone clause hasks
        match members, hseq, hrange with
        | [op, bound], _, hrange => exact hrange [] op bound rfl (by simp)
        | [field, op, bound], _, hrange => exact hrange [field] op bound rfl (by simp)
        | [], hseq, _ => exact .length hseq (by simp) (by simp)
        | [_], hseq, _ => exact .length hseq (by simp) (by simp)
        | _ :: _ :: _ :: _ :: _, hseq, _ => exact .length hseq (by simp) (by simp)
  · exact fun h clause => h.not_asksFor key clause

/-! ### The same constraint in another form -/

/-- **Another way to write a constraint** on a key: a pair of an operator and a bound with the key
    in front, and a list as a tuple. -/
inductive Restates (key : String) : (constraint other : Value) → Prop where
  | withField {constraint other op bound : Value} (hpair : constraint.sequence? = some [op, bound])
      (htriple : other.sequence? = some [.str key, op, bound]) : Restates key constraint other
  | asTuple (members : List Value) : Restates key (.list members) (.tuple members)

/-- Written in another way a constraint has the clauses that it had. -/
theorem Restates.clausesOf_eq {key : String} {constraint other : Value}
    (h : Restates key constraint other) : clausesOf key constraint = clausesOf key other := by
  rw [clausesOf, clausesOf]
  cases h with
  | withField hpair htriple =>
    rw [ofConstraint?_of_sequence key hpair, ofConstraint?_of_sequence key htriple]
    rfl
  | asTuple members => rfl

/-! ### Ranges had back from their clauses -/

/-- **A constraint that is a range**, with its field, the symbol of its operator, and its bound. -/
inductive AsksForRange (key : String) :
    (constraint : Value) → (field symbol : String) → (bound : Value) → Prop where
  | pair {v op bound : Value} {symbol comparison : String} (hseq : v.sequence? = some [op, bound])
      (hop : op.str? = some symbol) (hknown : (symbol, comparison) ∈ comparisons) :
      AsksForRange key v key symbol bound
  | triple {v field op bound : Value} {name symbol comparison : String}
      (hseq : v.sequence? = some [field, op, bound]) (hfield : field.str? = some name)
      (hop : op.str? = some symbol) (hknown : (symbol, comparison) ∈ comparisons) :
      AsksForRange key v name symbol bound

/-- A range has one clause, in which the operator is named. -/
theorem AsksForRange.exists_clausesOf_eq {key field symbol : String} {constraint bound : Value}
    (h : AsksForRange key constraint field symbol bound) :
    ∃ comparison, (symbol, comparison) ∈ comparisons
      ∧ clausesOf key constraint = [rangeClause field comparison bound] := by
  have hone : ∀ clause, AsksFor key constraint clause → clausesOf key constraint = [clause] := by
    intro clause hasks
    rw [clausesOf, (asksFor_iff key constraint clause).1 hasks]
    rfl
  cases h with
  | pair hseq hop hknown => exact ⟨_, hknown, hone _ (.pair hseq hop hknown)⟩
  | triple hseq hfield hop hknown => exact ⟨_, hknown, hone _ (.triple hseq hfield hop hknown)⟩

/-- No two symbols have one name. -/
theorem symbol_unique {symbol other comparison : String} (h : (symbol, comparison) ∈ comparisons)
    (hother : (other, comparison) ∈ comparisons) : symbol = other := by
  simp only [comparisons, List.mem_cons, Prod.mk.injEq, List.not_mem_nil, or_false] at h hother
  rcases h with ⟨rfl, rfl⟩ | ⟨rfl, rfl⟩ | ⟨rfl, rfl⟩ | ⟨rfl, rfl⟩ <;> simp at hother <;>
    exact hother.symm

/-- Clauses of ranges are equal if the fields and the names are the same and the bounds equal. -/
theorem equalBy_rangeClause_iff {atom : Value → Value → Prop}
    (field other comparison name : String) (bound limit : Value) :
    (rangeClause field comparison bound).EqualBy atom (rangeClause other name limit) ↔
      field = other ∧ comparison = name ∧ bound.EqualBy atom limit := by
  simp only [rangeClause, equalBy_entry_iff, true_and]

/-! ### Main result -/

/-- **Filters follow the constraints.** For all constraints the filters are what the entries add,
    one after the other: the clause that an entry asks for, if it asks for one. So the filters of
    constraints with further ones set in them, at other keys, are those of both. An entry that asks
    for nothing can be put in or taken out anywhere, and these are the only ones that add nothing.
    A constraint can be written in another way. And from the clause of a range the field, the symbol
    and the bound can be had back. -/
theorem filters_follow_constraints :
    (∀ wheres, ∃ contributions : List (List Value),
        List.Forall₂ Contribution wheres contributions
          ∧ filtersOf wheres = contributions.flatten)
      ∧ (∀ wheres others : Document, others.keys.Nodup →
        (∀ key ∈ wheres.keys, key ∉ others.keys) →
        filtersOf (wheres.update others) = filtersOf wheres ++ filtersOf others)
      ∧ (∀ key constraint, filtersOf [(key, constraint)] = [] ↔ AsksForNothing constraint)
      ∧ (∀ before after key constraint, AsksForNothing constraint →
        filtersOf (before ++ (key, constraint) :: after) = filtersOf (before ++ after))
      ∧ (∀ before after key constraint other, Restates key constraint other →
        filtersOf (before ++ (key, constraint) :: after) =
          filtersOf (before ++ (key, other) :: after))
      ∧ ∀ key constraint field symbol bound otherKey other otherField otherSymbol otherBound,
        AsksForRange key constraint field symbol bound →
        AsksForRange otherKey other otherField otherSymbol otherBound →
        (filtersOf [(key, constraint)] = filtersOf [(otherKey, other)] →
          field = otherField ∧ symbol = otherSymbol ∧ bound = otherBound)
        ∧ ∀ atom, List.Forall₂ (Value.EqualBy atom) (filtersOf [(key, constraint)])
            (filtersOf [(otherKey, other)]) →
          field = otherField ∧ symbol = otherSymbol ∧ bound.EqualBy atom otherBound := by
  -- Each part is about the clauses of one entry, which stand in the order of the entries.
  refine ⟨fun wheres => ?_, fun wheres others hkeys hdisjoint => ?_, fun key constraint => ?_,
    fun before after key constraint hnothing => ?_,
    fun before after key constraint other hrestates => ?_, ?_⟩
  · refine ⟨wheres.map fun entry => clausesOf entry.1 entry.2, ?_, ?_⟩
    · rw [List.forall₂_map_right_iff, List.forall₂_same]
      exact fun entry _ => contribution_clausesOf entry
    · rw [filtersOf_eq, List.flatMap_def]
  · rw [update_eq_append hkeys hdisjoint, filtersOf_append]
  · rw [filtersOf_singleton, clausesOf_eq_nil_iff]
  · rw [filtersOf_between, (clausesOf_eq_nil_iff key constraint).2 hnothing, List.append_nil,
      filtersOf_append]
  · rw [filtersOf_between, filtersOf_between, hrestates.clausesOf_eq]
  · intro key constraint field symbol bound otherKey other otherField otherSymbol otherBound
      hrange hother
    obtain ⟨comparison, hknown, hclauses⟩ := hrange.exists_clausesOf_eq
    obtain ⟨name, hname, hothers⟩ := hother.exists_clausesOf_eq
    rw [filtersOf_singleton, filtersOf_singleton, hclauses, hothers]
    constructor
    · intro heq
      simp only [rangeClause, List.cons.injEq, Value.mapping.injEq, Prod.mk.injEq, and_true,
        true_and] at heq
      obtain ⟨rfl, rfl, rfl⟩ := heq
      exact ⟨rfl, symbol_unique hknown hname, rfl⟩
    · intro atom heq
      rw [List.forall₂_cons, equalBy_rangeClause_iff] at heq
      obtain ⟨⟨rfl, rfl, hbounds⟩, -⟩ := heq
      exact ⟨rfl, symbol_unique hknown hname, hbounds⟩

/-- A price above ten, with a list of tags in front that asks for nothing, is one range in the short
    form and in the long one. A price of ten at least has another filter. -/
theorem priceFilter_restated :
    AsksForNothing (.list [.str "new"])
      ∧ Restates "price" (.list [.str ">", .int 10]) (.tuple [.str "price", .str ">", .int 10])
      ∧ filtersOf [("tags", .list [.str "new"]), ("price", .list [.str ">", .int 10])] =
        filtersOf [("price", .tuple [.str "price", .str ">", .int 10])]
      ∧ AsksForRange "price" (.list [.str ">", .int 10]) "price" ">" (.int 10)
      ∧ AsksForRange "cost" (.list [.str "price", .str ">=", .int 10]) "price" ">=" (.int 10)
      ∧ filtersOf [("price", .list [.str ">", .int 10])] ≠
        filtersOf [("cost", .list [.str "price", .str ">=", .int 10])]
      ∧ filtersOf (Document.update [("price", .list [.str ">", .int 10])] [("new", .bool true)]) =
        filtersOf [("price", .list [.str ">", .int 10])] ++ filtersOf [("new", .bool true)] := by
  have hnothing : AsksForNothing (.list [.str "new"]) := .length rfl (by decide) (by decide)
  have hrestates : Restates "price" (.list [.str ">", .int 10])
      (.tuple [.str "price", .str ">", .int 10]) := .withField rfl rfl
  have habove : AsksForRange "price" (.list [.str ">", .int 10]) "price" ">" (.int 10) :=
    .pair rfl rfl (show (">", "gt") ∈ comparisons by decide)
  have hatLeast : AsksForRange "cost" (.list [.str "price", .str ">=", .int 10]) "price" ">="
      (.int 10) := .triple rfl rfl rfl (show (">=", "gte") ∈ comparisons by decide)
  obtain ⟨-, hupdate, -, hremove, hreplace, hback⟩ := filters_follow_constraints
  refine ⟨hnothing, hrestates, ?_, habove, hatLeast, fun heq => ?_, ?_⟩
  · exact (hremove [] [("price", .list [.str ">", .int 10])] "tags" _ hnothing).trans
      (hreplace [] [] "price" _ _ hrestates)
  · obtain ⟨-, hsymbols, -⟩ := (hback _ _ _ _ _ _ _ _ _ _ habove hatLeast).1 heq
    exact absurd hsymbols (by decide)
  · exact hupdate _ _ (by decide) (by decide)

end RecordSearch
