import RecordSearch.Value.Merge
import RecordSearch.Proofs.Value.Keyed
import Mathlib.Data.List.Infix

namespace RecordSearch

/-!
# Values as trees

A value is a tree: its mappings branch, one branch for each key, and all other values are leaves. A
path of keys leads to a node of the tree, or to nothing.

* `Value.at?`, `Value.nodeAt?`: the value, and the node, at a path;
* `Value.HasDistinctKeys`: no mapping of the tree has a key twice;
* `Conflict`, `Agree`: a leaf of one tree is where the other one branches, or there is no such leaf;
* `placed`: the nodes of a value that stands at a path.

`nodeAt?_merge` says that two trees are merged node by node, and `nodeAt?_insertAt` that a value set
at a path changes no node but those of the path.
-/

/-- A node of a tree: a branching, or a value that does not branch. -/
inductive Node where
  | branch
  | leaf (v : Value)

/-- The nodes of a tree, or of several trees together, by their paths. -/
abbrev Nodes := List String → Option Node

namespace Value

/-- The node that a value is. -/
def node : Value → Node
  | .mapping _ => .branch
  | v => .leaf v

/-- The value below a key of text. Any value but a mapping with such keys is a leaf. -/
def below? (v : Value) (key : String) : Option Value :=
  match v with
  | .mapping d => Document.get? d key
  | _ => none

/-- The value at a path. -/
def at? : (v : Value) → (path : List String) → Option Value
  | v, [] => some v
  | v, key :: path => (v.below? key).bind fun below => below.at? path

/-- The node at a path. -/
def nodeAt? (v : Value) : Nodes := fun path => (v.at? path).map node

/-- **No key is there twice** in any mapping of the tree. -/
def HasDistinctKeys (v : Value) : Prop :=
  ∀ path (d : Document), v.at? path = some (.mapping d) → d.keys.Nodup

end Value

/-- **A conflict**: at a path there is a leaf of one tree and a branching of another. -/
def Conflict (first second : Nodes) : Prop :=
  ∃ path v, first path = some (.leaf v) ∧ second path = some .branch

/-- **Trees that agree**: no leaf of one is where the other one branches. -/
def Agree (first second : Nodes) : Prop := ¬ Conflict first second ∧ ¬ Conflict second first

/-! ### Paths -/

namespace Value

/-- A value is a mapping, or a leaf without any keys. -/
theorem mapping_or_leaf (v : Value) :
    (∃ d : Document, v = .mapping d) ∨ (v.node = .leaf v ∧ ∀ key, v.below? key = none) := by
  cases v with
  | mapping d => exact .inl ⟨d, rfl⟩
  | _ => exact .inr ⟨rfl, fun _ => rfl⟩

@[simp] theorem nodeAt?_nil (v : Value) : v.nodeAt? [] = some v.node := rfl

theorem nodeAt?_cons (v : Value) (key : String) (path : List String) :
    v.nodeAt? (key :: path) = (v.below? key).bind fun below => below.nodeAt? path := by
  rw [nodeAt?, at?]
  cases v.below? key with
  | none => rfl
  | some below => rfl

theorem nodeAt?_mapping_cons (d : Document) (key : String) (path : List String) :
    (Value.mapping d).nodeAt? (key :: path) =
      (d.get? key).bind fun below => below.nodeAt? path :=
  nodeAt?_cons _ key path

/-- Where there is nothing, there is nothing below. -/
theorem nodeAt?_append_of_none {v : Value} {path : List String} (h : v.nodeAt? path = none)
    (below : List String) : v.nodeAt? (path ++ below) = none := by
  induction path generalizing v with
  | nil => cases h
  | cons key path ih =>
    rw [nodeAt?_cons] at h
    rw [List.cons_append, nodeAt?_cons]
    cases hget : v.below? key with
    | none => rfl
    | some w =>
      rw [hget] at h
      exact ih h

/-- A leaf has nothing below it. -/
theorem nodeAt?_cons_of_leaf {v w : Value} (h : v.node = .leaf w) (key : String)
    (path : List String) : v.nodeAt? (key :: path) = none := by
  rcases v.mapping_or_leaf with ⟨d, rfl⟩ | ⟨-, hget⟩
  · cases h
  · rw [nodeAt?_cons, hget]
    rfl

/-- The mapping whose node is a branching. -/
theorem node_eq_branch_iff (v : Value) : v.node = .branch ↔ ∃ d : Document, v = .mapping d := by
  rcases v.mapping_or_leaf with ⟨d, rfl⟩ | ⟨hleaf, -⟩
  · exact ⟨fun _ => ⟨d, rfl⟩, fun _ => rfl⟩
  · constructor
    · intro h
      rw [hleaf] at h
      cases h
    · rintro ⟨d, rfl⟩
      rfl

/-! ### Distinct keys -/

/-- The keys of a mapping are distinct if its own are and those of its members. -/
theorem hasDistinctKeys_mapping_iff (d : Document) :
    (Value.mapping d).HasDistinctKeys ↔
      d.keys.Nodup ∧ ∀ key v, d.get? key = some v → v.HasDistinctKeys := by
  have hat : ∀ key path, (Value.mapping d).at? (key :: path) =
      (d.get? key).bind fun below => below.at? path := fun _ _ => rfl
  constructor
  · intro h
    refine ⟨h [] d rfl, fun key v hv path inner hinner => h (key :: path) inner ?_⟩
    rw [hat, hv]
    exact hinner
  · rintro ⟨hown, hbelow⟩ path inner hinner
    cases path with
    | nil =>
      cases hinner
      exact hown
    | cons key path =>
      rw [hat] at hinner
      obtain ⟨v, hv, hat⟩ := Option.bind_eq_some_iff.1 hinner
      exact hbelow key v hv path inner hat

/-- A mapping without entries has no keys. -/
theorem hasDistinctKeys_empty : (Value.mapping []).HasDistinctKeys :=
  (hasDistinctKeys_mapping_iff []).2 ⟨List.nodup_nil, nofun⟩

/-- A leaf has no keys. -/
theorem hasDistinctKeys_of_leaf {v : Value} (h : v.node = .leaf v) : v.HasDistinctKeys := by
  intro path d hd
  rcases v.mapping_or_leaf with ⟨e, rfl⟩ | ⟨-, hget⟩
  · cases h
  · cases path with
    | nil =>
      cases hd
      cases h
    | cons key path =>
      rw [at?, hget] at hd
      cases hd

end Value

/-- The keys in the tree of a mapping are distinct, if its own are and those of its values. -/
theorem hasDistinctKeys_of_forall_mem {d : Document} (h : d.keys.Nodup)
    (hvalues : ∀ e ∈ d, e.2.HasDistinctKeys) : (Value.mapping d).HasDistinctKeys :=
  (Value.hasDistinctKeys_mapping_iff d).2
    ⟨h, fun key v hv => hvalues (key, v) (mem_of_get? hv)⟩

/-- A document that is made of entries has distinct keys if their values have. -/
theorem hasDistinctKeys_ofEntries {entries : List (String × Value)}
    (h : ∀ e ∈ entries, e.2.HasDistinctKeys) :
    (Value.mapping (Document.ofEntries entries)).HasDistinctKeys := by
  refine hasDistinctKeys_of_forall_mem (nodup_keys_ofEntries entries) fun e he => ?_
  exact h _ (mem_of_mem_ofEntries he)

/-! ### Agreement -/

namespace Agree

theorem symm {first second : Nodes} (h : Agree first second) : Agree second first := And.symm h

/-- Two trees agree with a third one if the first of them that has a node does. -/
theorem or {first second third : Nodes} (hfirst : Agree first third)
    (hsecond : Agree second third) : Agree (fun path => (first path).or (second path)) third := by
  constructor
  · rintro ⟨path, v, hleaf, hbranch⟩
    rcases Option.or_eq_some_iff.1 hleaf with hleaf | ⟨-, hleaf⟩
    · exact hfirst.1 ⟨path, v, hleaf, hbranch⟩
    · exact hsecond.1 ⟨path, v, hleaf, hbranch⟩
  · rintro ⟨path, v, hleaf, hbranch⟩
    rcases Option.or_eq_some_iff.1 hbranch with hbranch | ⟨-, hbranch⟩
    · exact hfirst.2 ⟨path, v, hleaf, hbranch⟩
    · exact hsecond.2 ⟨path, v, hleaf, hbranch⟩

/-- Mappings that agree have members that do. -/
theorem below {d e : Document} (h : Agree (Value.mapping d).nodeAt? (Value.mapping e).nodeAt?)
    {key : String} {v w : Value} (hv : d.get? key = some v) (hw : e.get? key = some w) :
    Agree v.nodeAt? w.nodeAt? := by
  have hd : ∀ path, (Value.mapping d).nodeAt? (key :: path) = v.nodeAt? path := fun path => by
    rw [Value.nodeAt?_mapping_cons, hv, Option.bind_some]
  have he : ∀ path, (Value.mapping e).nodeAt? (key :: path) = w.nodeAt? path := fun path => by
    rw [Value.nodeAt?_mapping_cons, hw, Option.bind_some]
  constructor
  · rintro ⟨path, u, hleaf, hbranch⟩
    exact h.1 ⟨key :: path, u, (hd path).trans hleaf, (he path).trans hbranch⟩
  · rintro ⟨path, u, hleaf, hbranch⟩
    exact h.2 ⟨key :: path, u, (he path).trans hleaf, (hd path).trans hbranch⟩

end Agree

/-- Everything agrees with nothing. -/
theorem agree_none (nodes : Nodes) : Agree nodes fun _ => none := by
  constructor
  · rintro ⟨path, v, -, hbranch⟩
    cases hbranch
  · rintro ⟨path, v, hleaf, -⟩
    cases hleaf

/-- Leaves agree. -/
theorem agree_of_leaves {v w : Value} (hv : v.node = .leaf v) (hw : w.node = .leaf w) :
    Agree v.nodeAt? w.nodeAt? := by
  have hnone : ∀ {v w : Value}, w.node = .leaf w → ¬ Conflict v.nodeAt? w.nodeAt? := by
    rintro v w hw ⟨path, u, -, hbranch⟩
    cases path with
    | nil =>
      rw [Value.nodeAt?_nil, hw] at hbranch
      cases hbranch
    | cons key path =>
      rw [Value.nodeAt?_cons_of_leaf hw] at hbranch
      cases hbranch
  exact ⟨hnone hw, hnone hv⟩

/-- A mapping agrees with a tree that branches at its root if its members agree with what is below
    their keys. -/
theorem agree_mapping {d : Document} {nodes : Nodes} (hroot : nodes [] = some .branch)
    (h : ∀ key v, d.get? key = some v → Agree v.nodeAt? fun path => nodes (key :: path)) :
    Agree (Value.mapping d).nodeAt? nodes := by
  have hbelow : ∀ key path node, (Value.mapping d).nodeAt? (key :: path) = some node →
      ∃ v, d.get? key = some v ∧ v.nodeAt? path = some node := by
    intro key path node hnode
    rw [Value.nodeAt?_mapping_cons] at hnode
    exact Option.bind_eq_some_iff.1 hnode
  constructor
  · rintro ⟨path, u, hleaf, hbranch⟩
    cases path with
    | nil => cases hleaf
    | cons key path =>
      obtain ⟨v, hv, hleaf⟩ := hbelow key path _ hleaf
      exact (h key v hv).1 ⟨path, u, hleaf, hbranch⟩
  · rintro ⟨path, u, hleaf, hbranch⟩
    cases path with
    | nil =>
      rw [hroot] at hleaf
      cases hleaf
    | cons key path =>
      obtain ⟨v, hv, hbranch⟩ := hbelow key path _ hbranch
      exact (h key v hv).2 ⟨path, u, hleaf, hbranch⟩

/-! ### Merging -/

/-- The value at a key of two mappings that are merged. -/
theorem get?_merge (base : Document) {upper : Document} (h : upper.keys.Nodup) (key : String) :
    (Document.merge base upper).get? key =
      match upper.get? key, base.get? key with
      | none, below => below
      | some v, none => some v
      | some v, some w => some (Value.merge w v) := by
  induction upper generalizing base with
  | nil => rfl
  | cons entry upper ih =>
    obtain ⟨k, v⟩ := entry
    obtain ⟨hnew, hrest⟩ := List.nodup_cons.1 h
    -- A key occurs once above, so what is inserted for it is not merged again.
    have hset : ∀ w, (Document.merge (base.insert k w) upper).get? key =
        if key = k then some w else (Document.merge base upper).get? key := by
      intro w
      rw [ih _ hrest]
      by_cases hk : key = k
      · have hnone : upper.lookup key = none := by
          rw [List.lookup_eq_none_iff]
          intro e he
          rw [bne_iff_ne, hk]
          exact fun heq => hnew (List.mem_map.2 ⟨e, he, heq.symm⟩)
        rw [Document.get?, hnone, if_pos hk, hk, Document.get?_insert_self]
      · rw [if_neg hk, Document.get?_insert_of_ne _ _ hk, ih _ hrest]
    rw [Document.merge, Document.get?_cons]
    by_cases hk : key = k
    · subst hk
      rw [if_pos rfl]
      cases base.get? key with
      | none => exact (hset v).trans (if_pos rfl)
      | some w => exact (hset _).trans (if_pos rfl)
    · rw [if_neg hk, ← ih _ hrest]
      cases base.get? k with
      | none => exact (hset v).trans (if_neg hk)
      | some w => exact (hset _).trans (if_neg hk)

/-- Merged mappings have distinct keys if the lower one has. -/
theorem nodup_keys_merge {base : Document} (h : base.keys.Nodup) (upper : Document) :
    (Document.merge base upper).keys.Nodup := by
  induction upper generalizing base with
  | nil => exact h
  | cons entry upper ih =>
    obtain ⟨k, v⟩ := entry
    rw [Document.merge]
    exact ih (by cases base.get? k <;> exact nodup_keys_insert h _ _)

namespace Value

/-- A leaf replaces everything. -/
theorem merge_of_leaf {v : Value} (h : v.node = .leaf v) (w : Value) : Value.merge w v = v := by
  cases v with
  | mapping d => cases h
  | _ => rw [Value.merge]; exact nofun

/-- A mapping replaces a leaf. -/
theorem merge_mapping_of_leaf {w : Value} (h : w.node = .leaf w) (d : Document) :
    Value.merge w (.mapping d) = .mapping d := by
  cases w with
  | mapping e => cases h
  | _ => rw [Value.merge]; exact nofun

/-- Two mappings are merged entry by entry. -/
theorem merge_mapping (base upper : Document) :
    Value.merge (.mapping base) (.mapping upper) = .mapping (Document.merge base upper) := by
  rw [Value.merge]

/-- Merged trees have distinct keys if both trees have. -/
theorem HasDistinctKeys.merge {v w : Value} (hv : v.HasDistinctKeys) (hw : w.HasDistinctKeys) :
    (Value.merge w v).HasDistinctKeys := by
  intro path
  -- The induction is on the path, which leads into both trees at once.
  induction path generalizing v w with
  | nil =>
    intro d hd
    rcases v.mapping_or_leaf with ⟨upper, rfl⟩ | ⟨hleaf, -⟩
    · rcases w.mapping_or_leaf with ⟨base, rfl⟩ | ⟨hleaf, -⟩
      · rw [merge_mapping] at hd
        cases hd
        exact nodup_keys_merge (hw [] base rfl) upper
      · rw [merge_mapping_of_leaf hleaf] at hd
        exact hv [] d hd
    · rw [merge_of_leaf hleaf] at hd
      exact hv [] d hd
  | cons key path ih =>
    intro d hd
    rcases v.mapping_or_leaf with ⟨upper, rfl⟩ | ⟨hleaf, -⟩
    · rcases w.mapping_or_leaf with ⟨base, rfl⟩ | ⟨hleaf, -⟩
      · obtain ⟨hown, hupper⟩ := (hasDistinctKeys_mapping_iff upper).1 hv
        obtain ⟨-, hbase⟩ := (hasDistinctKeys_mapping_iff base).1 hw
        rw [merge_mapping] at hd
        obtain ⟨u, hu, hat⟩ := Option.bind_eq_some_iff.1 hd
        have hu : (Document.merge base upper).get? key = some u := hu
        rw [get?_merge base hown] at hu
        cases hv : upper.get? key with
        | none =>
          rw [hv] at hu
          exact hbase key u hu path d hat
        | some v =>
          cases hw : base.get? key with
          | none =>
            rw [hv, hw] at hu
            cases hu
            exact hupper key u hv path d hat
          | some w =>
            rw [hv, hw] at hu
            cases hu
            exact ih (hupper key v hv) (hbase key w hw) d hat
      · rw [merge_mapping_of_leaf hleaf] at hd
        exact hv _ d hd
    · rw [merge_of_leaf hleaf] at hd
      exact hv _ d hd

/-- **Two trees that agree are merged node by node.** The node of the upper tree counts where it
    has one, and else that of the lower tree. -/
theorem nodeAt?_merge {v w : Value} (hv : v.HasDistinctKeys) (h : Agree v.nodeAt? w.nodeAt?)
    (path : List String) :
    (Value.merge w v).nodeAt? path = (v.nodeAt? path).or (w.nodeAt? path) := by
  induction path generalizing v w with
  | nil =>
    rcases v.mapping_or_leaf with ⟨upper, rfl⟩ | ⟨hleaf, -⟩
    · rcases w.mapping_or_leaf with ⟨base, rfl⟩ | ⟨hleaf, -⟩
      · rw [merge_mapping]
        rfl
      · rw [merge_mapping_of_leaf hleaf]
        rfl
    · rw [merge_of_leaf hleaf]
      rfl
  | cons key path ih =>
    rcases v.mapping_or_leaf with ⟨upper, rfl⟩ | ⟨hleaf, -⟩
    · rcases w.mapping_or_leaf with ⟨base, rfl⟩ | ⟨hleaf, -⟩
      · obtain ⟨hown, hbelow⟩ := (hasDistinctKeys_mapping_iff upper).1 hv
        rw [merge_mapping, nodeAt?_mapping_cons, nodeAt?_mapping_cons, nodeAt?_mapping_cons,
          get?_merge base hown]
        cases hv : upper.get? key with
        | none =>
          rw [Option.bind_none, Option.none_or]
        | some v =>
          cases hw : base.get? key with
          | none =>
            rw [Option.bind_none, Option.or_none]
          | some w =>
            exact ih (hbelow key v hv) (h.below hv hw)
      -- A mapping over a leaf is where the two do not agree.
      · exact absurd ⟨[], w, congrArg some hleaf, rfl⟩ h.2
    · rw [merge_of_leaf hleaf, nodeAt?_cons_of_leaf hleaf, Option.none_or]
      rcases w.mapping_or_leaf with ⟨base, rfl⟩ | ⟨hother, -⟩
      -- Nor do they where a leaf is over a mapping.
      · exact absurd ⟨[], v, congrArg some hleaf, rfl⟩ h.1
      · exact (nodeAt?_cons_of_leaf hother key path).symm

end Value

/-! ### Values that stand at paths -/

/-- The nodes of a value that stands at a path: those of the value below the path, and branchings
    on the way there. -/
def placed (place : List String) (v : Value) : Nodes := fun path =>
  if place <+: path then v.nodeAt? (path.drop place.length)
  else if path <+: place then some .branch else none

/-- **Nothing stands in the way of a place**: there is nothing there and below, and no leaf on the
    way there. -/
def IsFree (nodes : Nodes) (place : List String) : Prop :=
  ∀ path, (place <+: path → nodes path = none)
    ∧ (path <+: place → ∀ v, nodes path ≠ some (.leaf v))

/-- Two places, of which none lies below the other one. -/
def Apart (place other : List String) : Prop := ¬ place <+: other ∧ ¬ other <+: place

instance (place other : List String) : Decidable (Apart place other) :=
  inferInstanceAs (Decidable (_ ∧ _))

theorem placed_cons_self (key : String) (place : List String) (v : Value) (path : List String) :
    placed (key :: place) v (key :: path) = placed place v path := by
  simp only [placed, List.cons_prefix_cons, true_and, List.length_cons, List.drop_succ_cons]

theorem placed_cons_of_ne {key other : String} (h : other ≠ key) (place : List String) (v : Value)
    (path : List String) : placed (key :: place) v (other :: path) = none := by
  simp only [placed, List.cons_prefix_cons, h, Ne.symm h, false_and, if_false]

theorem placed_nil {place : List String} (h : place ≠ []) (v : Value) :
    placed place v [] = some .branch := by
  rw [placed, if_neg (by simpa using h), if_pos List.nil_prefix]

/-- At its own place a value is found as it is. -/
theorem placed_self (place : List String) (v : Value) : placed place v place = some v.node := by
  rw [placed, if_pos List.prefix_rfl, List.drop_length]
  rfl

/-- A leaf at the place of a leaf has nodes nowhere but where the other tree has some, too. -/
theorem placed_eq_none {v w : Value} {place path : List String} {leaf : Value}
    (hplace : v.nodeAt? place = some (.leaf leaf)) (hw : w.node ≠ .branch)
    (hpath : v.nodeAt? path = none) : placed place w path = none := by
  rw [placed]
  by_cases hbelow : place <+: path
  · obtain ⟨more, rfl⟩ := hbelow
    rw [if_pos (List.prefix_append place more), List.drop_left]
    cases more with
    | nil =>
      rw [List.append_nil, hplace] at hpath
      cases hpath
    | cons key more =>
      rcases w.mapping_or_leaf with ⟨d, rfl⟩ | ⟨hleaf, -⟩
      · exact absurd rfl hw
      · exact Value.nodeAt?_cons_of_leaf hleaf key more
  -- Above the place there is a branch, so a path without a node is not there.
  · have habove : ¬ path <+: place := by
      rintro ⟨more, rfl⟩
      rw [Value.nodeAt?_append_of_none hpath] at hplace
      cases hplace
    rw [if_neg hbelow, if_neg habove]

/-- A value at a place of its own is free of conflicts with a value at another. -/
theorem IsFree.or_placed {nodes : Nodes} {place other : List String} (h : IsFree nodes other)
    (hapart : Apart place other) (v : Value) :
    IsFree (fun path => (placed place v path).or (nodes path)) other := by
  intro path
  constructor
  · intro hbelow
    -- Of two prefixes of one path one is a prefix of the other.
    have hnot : ¬ place <+: path := fun hplace =>
      (List.prefix_or_prefix_of_prefix hplace hbelow).elim hapart.1 hapart.2
    have hnot' : ¬ path <+: place := fun hpath => hapart.2 (hbelow.trans hpath)
    show (placed place v path).or (nodes path) = none
    rw [placed, if_neg hnot, if_neg hnot', Option.none_or]
    exact (h path).1 hbelow
  · intro habove w
    have hnot : ¬ place <+: path := fun hplace => hapart.1 (hplace.trans habove)
    show (placed place v path).or (nodes path) ≠ some (.leaf w)
    rw [placed, if_neg hnot]
    by_cases hpath : path <+: place
    · rw [if_pos hpath]
      exact nofun
    · rw [if_neg hpath]
      exact (h path).2 habove w

/-- Of two values at places that lie apart, it does not matter which one comes first. -/
theorem placed_or_comm {place other : List String} (h : Apart place other) (v w : Value)
    (path : List String) :
    (placed place v path).or (placed other w path) =
      (placed other w path).or (placed place v path) := by
  by_cases hplace : place <+: path
  · have hnot : ¬ other <+: path := fun hother =>
      (List.prefix_or_prefix_of_prefix hplace hother).elim h.1 h.2
    have hnot' : ¬ path <+: other := fun hpath => h.1 (hplace.trans hpath)
    rw [placed.eq_1 other, if_neg hnot, if_neg hnot', Option.or_none, Option.none_or]
  · by_cases hother : other <+: path
    · have hnot : ¬ path <+: place := fun hpath => h.2 (hother.trans hpath)
      rw [placed.eq_1 place, if_neg hplace, if_neg hnot, Option.or_none, Option.none_or]
    · -- Both values can only branch here.
      rw [placed, placed, if_neg hplace, if_neg hother]
      by_cases hpath : path <+: place <;> by_cases hpath' : path <+: other <;> simp [hpath, hpath']

/-- Values at places that lie apart agree. -/
theorem agree_placed {place other : List String} (h : Apart place other) (v w : Value) :
    Agree (placed place v) (placed other w) := by
  constructor
  · rintro ⟨path, u, hleaf, hbranch⟩
    have hcomm := placed_or_comm h v w path
    rw [hleaf, hbranch] at hcomm
    cases hcomm
  · rintro ⟨path, u, hleaf, hbranch⟩
    have hcomm := placed_or_comm h v w path
    rw [hleaf, hbranch] at hcomm
    cases hcomm

/-- A mapping agrees with a value at a place if its member there does. -/
theorem agree_placed_cons {d : Document} {key : String} {place : List String} {w : Value}
    (h : ∀ v, d.get? key = some v → Agree v.nodeAt? (placed place w)) :
    Agree (Value.mapping d).nodeAt? (placed (key :: place) w) := by
  refine agree_mapping (placed_nil (List.cons_ne_nil _ _) w) fun other v hv => ?_
  by_cases hother : other = key
  · subst hother
    simp only [placed_cons_self]
    exact h v hv
  · simp only [placed_cons_of_ne hother]
    exact agree_none _

/-- At the root a value has the nodes that it has. -/
theorem placed_root (v : Value) : placed [] v = v.nodeAt? := by
  funext path
  exact if_pos List.nil_prefix

/-! ### Values that are set -/

/-- A value that is set has its nodes below its key. -/
theorem Value.nodeAt?_insert_self (d : Document) (key : String) (v : Value) (path : List String) :
    (Value.mapping (d.insert key v)).nodeAt? (key :: path) = v.nodeAt? path := by
  rw [Value.nodeAt?_mapping_cons, Document.get?_insert_self, Option.bind_some]

/-- Under another key everything is as it was. -/
theorem Value.nodeAt?_insert_of_ne (d : Document) (v : Value) {key other : String}
    (h : key ≠ other) (path : List String) :
    (Value.mapping (d.insert other v)).nodeAt? (key :: path) =
      (Value.mapping d).nodeAt? (key :: path) := by
  rw [Value.nodeAt?_mapping_cons, Document.get?_insert_of_ne _ _ h, Value.nodeAt?_mapping_cons]

/-- In a mapping without entries every place below is free. -/
theorem isFree_empty {place : List String} (h : place ≠ []) :
    IsFree (Value.mapping []).nodeAt? place := by
  intro path
  cases path with
  | nil => exact ⟨fun hprefix => absurd (List.prefix_nil.1 hprefix) h, fun _ _ => nofun⟩
  | cons key path => exact ⟨fun _ => rfl, fun _ _ => nofun⟩

/-- A free place is free from its first key on. -/
theorem IsFree.tail {nodes : Nodes} {key : String} {place : List String}
    (h : IsFree nodes (key :: place)) : IsFree (fun path => nodes (key :: path)) place := by
  intro path
  obtain ⟨hbelow, habove⟩ := h (key :: path)
  exact ⟨fun hplace => hbelow (List.cons_prefix_cons.2 ⟨rfl, hplace⟩),
    fun hpath => habove (List.cons_prefix_cons.2 ⟨rfl, hpath⟩)⟩

/-- **A value is set** at a place that is free: its nodes are added, and no other node changes. -/
theorem nodeAt?_insertAt {d : Document} {keys : List String} {last : String}
    (h : IsFree (Value.mapping d).nodeAt? (keys ++ [last])) (v : Value) (path : List String) :
    (Value.mapping (d.insertAt keys last v)).nodeAt? path =
      (placed (keys ++ [last]) v path).or ((Value.mapping d).nodeAt? path) := by
  induction keys generalizing d path with
  | nil =>
    cases path with
    | nil => rfl
    | cons key path =>
      rw [Document.insertAt, List.nil_append]
      by_cases hkey : key = last
      · subst hkey
        have hnone := (h (key :: path)).1 (by simp)
        rw [hnone, placed_cons_self, placed_root, Value.nodeAt?_insert_self, Option.or_none]
      · rw [placed_cons_of_ne hkey, Value.nodeAt?_insert_of_ne _ _ hkey, Option.none_or]
  | cons first keys ih =>
    cases path with
    | nil => rfl
    | cons key path =>
      rw [List.cons_append, Document.insertAt]
      by_cases hkey : key = first
      · subst hkey
        have hfree := h.tail
        simp only [Value.nodeAt?_mapping_cons d] at hfree
        rw [placed_cons_self, Value.nodeAt?_mapping_cons d]
        -- The first key may lead nowhere yet, to a mapping, or to a leaf; a free place excludes the
        -- leaf.
        cases hget : d.get? key with
        | none =>
          dsimp only
          rw [Value.nodeAt?_insert_self, ih (isFree_empty (by simp))]
          cases path with
          | nil =>
            rw [placed_nil (by simp)]
            rfl
          | cons other path => rfl
        | some w =>
          rw [hget] at hfree
          rcases w.mapping_or_leaf with ⟨below, rfl⟩ | ⟨hleaf, -⟩
          · dsimp only
            rw [Value.nodeAt?_insert_self, ih hfree]
            rfl
          · exact absurd (congrArg some hleaf) ((hfree []).2 List.nil_prefix w)
      · rw [placed_cons_of_ne hkey, Option.none_or]
        split
        · exact Value.nodeAt?_insert_of_ne _ _ hkey _
        · exact Value.nodeAt?_insert_of_ne _ _ hkey _
        · rfl

/-- To set a value with distinct keys leaves the keys of a mapping distinct. -/
theorem hasDistinctKeys_insert {d : Document} (h : (Value.mapping d).HasDistinctKeys)
    (key : String) {v : Value} (hv : v.HasDistinctKeys) :
    (Value.mapping (d.insert key v)).HasDistinctKeys := by
  obtain ⟨hown, hbelow⟩ := (Value.hasDistinctKeys_mapping_iff d).1 h
  refine (Value.hasDistinctKeys_mapping_iff _).2
    ⟨nodup_keys_insert hown key v, fun other w hw => ?_⟩
  by_cases hother : other = key
  · rw [hother, Document.get?_insert_self] at hw
    cases hw
    exact hv
  · rw [Document.get?_insert_of_ne _ _ hother] at hw
    exact hbelow other w hw

/-- The same holds for a value that is set below a path. -/
theorem hasDistinctKeys_insertAt {d : Document} (h : (Value.mapping d).HasDistinctKeys)
    (keys : List String) (last : String) {v : Value} (hv : v.HasDistinctKeys) :
    (Value.mapping (d.insertAt keys last v)).HasDistinctKeys := by
  induction keys generalizing d with
  | nil => exact hasDistinctKeys_insert h last hv
  | cons key keys ih =>
    rw [Document.insertAt]
    split
    · exact hasDistinctKeys_insert h key (ih Value.hasDistinctKeys_empty)
    · rename_i below hget
      exact hasDistinctKeys_insert h key
        (ih (((Value.hasDistinctKeys_mapping_iff d).1 h).2 key _ hget))
    · exact h

end RecordSearch
