import SasOutline.Proofs.FoldedObjects

/-!
# Three walks over one tree

The objects of a tree are handed out one at a time by a walk that remembers its unfinished
levels, the macro definitions are collected by a recursion, and the kinds are tallied by
another recursion that fills a table as it goes along.  All three see the same traversal,
each definition in front of its contents: the first two are its two halves, and the table
counts them both.
-/

namespace SasOutline

/-- Every node of a tree, a macro definition in front of the nodes it holds. -/
def preorder : List (Spanned Node) → List (Spanned Node)
  | [] => []
  | ⟨.macroDefinition heading contents terminated, span⟩ :: rest =>
      ⟨.macroDefinition heading contents terminated, span⟩ ::
        (preorder contents ++ preorder rest)
  | item :: rest => item :: preorder rest

theorem preorder_leaf {item : Spanned Node} (hleaf : item.kind ≠ .macroDefinition)
    (rest : List (Spanned Node)) : preorder (item :: rest) = item :: preorder rest := by
  obtain ⟨node, span⟩ := item
  cases node <;> simp_all [preorder, Spanned.kind, Node.kind]

/-! ## One object at a time -/

/-- The next object of the walk and the levels that it leaves, innermost first.  A finished
level is dropped, and a macro definition puts its contents on top of what is left of its own
level. -/
def nextObject? :
    List (List (Spanned Node)) → Option (Spanned Node × List (List (Spanned Node)))
  | [] => none
  | [] :: levels => nextObject? levels
  | (⟨.macroDefinition _ contents _, _⟩ :: rest) :: levels =>
      nextObject? (contents :: rest :: levels)
  | (item :: rest) :: levels => some (item, rest :: levels)

/-- The walk hands out these objects one by one, and then no more. -/
inductive Yields : List (List (Spanned Node)) → List (Spanned Node) → Prop
  | done {levels : List (List (Spanned Node))} (hdone : nextObject? levels = none) :
      Yields levels []
  | next {levels later : List (List (Spanned Node))} {item : Spanned Node}
      {items : List (Spanned Node)} (hnext : nextObject? levels = some (item, later))
      (hlater : Yields later items) : Yields levels (item :: items)

theorem objectsOfLevels_eq_next (levels : List (List (Spanned Node))) :
    objectsOfLevels levels =
      match nextObject? levels with
      | none => []
      | some (item, later) => item :: objectsOfLevels later := by
  fun_induction nextObject? levels with
  | case1 => simp [objectsOfLevels]
  | case2 levels ih => rw [objectsOfLevels, ih]
  | case3 heading contents terminated span rest levels ih => rw [objectsOfLevels, ih]
  | case4 item rest levels hleaf =>
      rw [objectsOfLevels]
      exact hleaf

theorem yields_objectsOfLevels (levels : List (List (Spanned Node))) :
    Yields levels (objectsOfLevels levels) := by
  -- Each object that is handed out leaves one object fewer.
  induction hlength : (objectsOfLevels levels).length using Nat.strong_induction_on
    generalizing levels with
  | _ length ih =>
  have hobjects := objectsOfLevels_eq_next levels
  cases hnext : nextObject? levels with
  | none =>
      simp only [hnext] at hobjects
      rw [hobjects]
      exact Yields.done hnext
  | some pair =>
      obtain ⟨item, later⟩ := pair
      simp only [hnext] at hobjects
      have hless : (objectsOfLevels later).length < length := by
        rw [← hlength, hobjects, List.length_cons]
        omega
      rw [hobjects]
      exact Yields.next hnext (ih _ hless later rfl)

theorem Yields.unique {levels : List (List (Spanned Node))} {items other : List (Spanned Node)}
    (h : Yields levels items) (hother : Yields levels other) : items = other := by
  induction h generalizing other with
  | done hdone =>
      cases hother with
      | done _ => rfl
      | next hnext _ => simp [hdone] at hnext
  | next hnext _ ih =>
      cases hother with
      | done hdone => simp [hdone] at hnext
      | next hnext' hlater =>
          rw [hnext, Option.some.injEq, Prod.mk.injEq] at hnext'
          obtain ⟨rfl, rfl⟩ := hnext'
          rw [ih hlater]

theorem yields_iff {levels : List (List (Spanned Node))} {items : List (Spanned Node)} :
    Yields levels items ↔ items = objectsOfLevels levels := by
  constructor
  · intro h
    exact h.unique (yields_objectsOfLevels levels)
  · rintro rfl
    exact yields_objectsOfLevels levels

/-! ## The two halves of the traversal -/

theorem objects_eq_filter_preorder (nodes : List (Spanned Node)) :
    objects nodes = (preorder nodes).filter fun item => item.kind ≠ .macroDefinition := by
  rw [objects_eq_documentOrder]
  induction nodes using treeInduction with
  | nil => simp [documentOrder, preorder]
  | definition heading contents terminated span rest hcontents hrest =>
      simp only [documentOrder, preorder]
      rw [List.filter_cons_of_neg (by simp [Spanned.kind, Node.kind]), List.filter_append,
        hcontents, hrest]
  | leaf item rest hleaf ih =>
      rw [documentOrder_leaf hleaf, preorder_leaf hleaf,
        List.filter_cons_of_pos (by simpa using hleaf), ih]

theorem macroDefinitions_eq_filter_preorder (nodes : List (Spanned Node)) :
    macroDefinitions nodes =
      (preorder nodes).filter fun item => item.kind = .macroDefinition := by
  induction nodes using treeInduction with
  | nil => simp [macroDefinitions, preorder]
  | definition heading contents terminated span rest hcontents hrest =>
      simp only [macroDefinitions, preorder]
      rw [List.filter_cons_of_pos (by simp [Spanned.kind, Node.kind]), List.filter_append,
        hcontents, hrest]
  | leaf item rest hleaf ih =>
      rw [macroDefinitions_leaf hleaf, preorder_leaf hleaf,
        List.filter_cons_of_neg (by simpa using hleaf), ih]

theorem length_preorder (nodes : List (Spanned Node)) :
    (preorder nodes).length = (objects nodes).length + (macroDefinitions nodes).length := by
  have hsplit := List.length_eq_length_filter_add
    (fun item : Spanned Node => decide (item.kind = .macroDefinition)) (l := preorder nodes)
  rw [objects_eq_filter_preorder, macroDefinitions_eq_filter_preorder, hsplit, Nat.add_comm]
  simp

/-! ## The number of nodes of a kind -/

theorem countKind_leaf {item : Spanned Node} (hleaf : item.kind ≠ .macroDefinition)
    (kind : NodeKind) (rest : List (Spanned Node)) :
    countKind kind (item :: rest) =
      (if item.kind = kind then 1 else 0) + countKind kind rest := by
  obtain ⟨node, span⟩ := item
  cases node <;> simp_all [countKind, Spanned.kind, Node.kind]

theorem countKind_eq (kind : NodeKind) (nodes : List (Spanned Node)) :
    countKind kind nodes = (preorder nodes).countP fun item => item.kind = kind := by
  induction nodes using treeInduction with
  | nil => simp [countKind, preorder]
  | definition heading contents terminated span rest hcontents hrest =>
      simp only [countKind, preorder]
      rw [List.countP_cons, List.countP_append, hcontents, hrest]
      by_cases hkind : kind = .macroDefinition
      · simp only [hkind, Spanned.kind, Node.kind, if_true, decide_true]
        omega
      · have hother : (Spanned.mk (.macroDefinition heading contents terminated) span).kind ≠
            kind := Ne.symm hkind
        simp [hkind, hother]
  | leaf item rest hleaf ih =>
      rw [countKind_leaf hleaf, preorder_leaf hleaf, List.countP_cons, ih]
      by_cases hkind : item.kind = kind
      · simp [hkind, Nat.add_comm]
      · simp [hkind]

theorem countKind_macroDefinition (nodes : List (Spanned Node)) :
    countKind .macroDefinition nodes = (macroDefinitions nodes).length := by
  rw [countKind_eq, macroDefinitions_eq_filter_preorder, List.countP_eq_length_filter]

theorem countKind_of_ne {kind : NodeKind} (hkind : kind ≠ .macroDefinition)
    (nodes : List (Spanned Node)) :
    countKind kind nodes = (objects nodes).countP fun item => item.kind = kind := by
  rw [countKind_eq, objects_eq_filter_preorder, List.countP_filter]
  apply List.countP_congr
  intro item _
  simp only [decide_eq_true_eq, Bool.and_eq_true, iff_self_and]
  rintro rfl
  exact hkind

/-! ## The table of kinds -/

/-- The place of a kind among all kinds. -/
def NodeKind.rank (kind : NodeKind) : Nat := all.idxOf kind

/-- Count one more node in a table that lists the kinds by rank. -/
def increment (kind : NodeKind) : List (NodeKind × Nat) → List (NodeKind × Nat)
  | [] => [(kind, 1)]
  | (held, count) :: rest =>
      if kind = held then (held, count + 1) :: rest
      else if kind.rank < held.rank then (kind, 1) :: (held, count) :: rest
      else (held, count) :: increment kind rest

/-- Count the nodes of a tree into a table. -/
def tally : List (Spanned Node) → List (NodeKind × Nat) → List (NodeKind × Nat)
  | [], table => table
  | ⟨.macroDefinition _ contents _, _⟩ :: rest, table =>
      tally rest (tally contents (increment .macroDefinition table))
  | item :: rest, table => tally rest (increment item.kind table)

theorem tally_leaf {item : Spanned Node} (hleaf : item.kind ≠ .macroDefinition)
    (rest : List (Spanned Node)) (table : List (NodeKind × Nat)) :
    tally (item :: rest) table = tally rest (increment item.kind table) := by
  obtain ⟨node, span⟩ := item
  cases node <;> simp_all [tally, Spanned.kind, Node.kind]

/-- The table of a count that is known for each kind. -/
def occurring (kinds : List NodeKind) (count : NodeKind → Nat) : List (NodeKind × Nat) :=
  (kinds.map fun kind => (kind, count kind)).filter (·.2 != 0)

section Occurring

variable {kind first : NodeKind} {kinds : List NodeKind} {count : NodeKind → Nat}

theorem occurring_cons_of_eq_zero (hcount : count first = 0) (kinds : List NodeKind) :
    occurring (first :: kinds) count = occurring kinds count := by
  simp [occurring, hcount]

theorem occurring_cons_of_ne_zero (hcount : count first ≠ 0) (kinds : List NodeKind) :
    occurring (first :: kinds) count = (first, count first) :: occurring kinds count := by
  simp [occurring, hcount]

theorem occurring_congr {other : NodeKind → Nat} (h : ∀ kind ∈ kinds, count kind = other kind) :
    occurring kinds count = occurring kinds other := by
  have hentries : (kinds.map fun kind => (kind, count kind)) =
      kinds.map fun kind => (kind, other kind) := by
    apply List.map_congr_left
    intro kind hkind
    rw [h kind hkind]
  unfold occurring
  rw [hentries]

theorem map_fst_occurring_sublist (kinds : List NodeKind) (count : NodeKind → Nat) :
    ((occurring kinds count).map Prod.fst).Sublist kinds := by
  have hentries := (List.filter_sublist (p := fun entry : NodeKind × Nat => entry.2 != 0)
    (l := kinds.map fun kind => (kind, count kind))).map Prod.fst
  simpa [occurring, Function.comp_def] using hentries

theorem lookup_occurring (kind : NodeKind) (kinds : List NodeKind) (count : NodeKind → Nat) :
    (occurring kinds count).lookup kind =
      if kind ∈ kinds ∧ count kind ≠ 0 then some (count kind) else none := by
  induction kinds with
  | nil => simp [occurring]
  | cons first kinds ih =>
      by_cases hcount : count first = 0
      · rw [occurring_cons_of_eq_zero hcount, ih]
        by_cases hkind : kind = first
        · simp [hkind, hcount]
        · simp [hkind]
      · rw [occurring_cons_of_ne_zero hcount, List.lookup_cons, ih]
        by_cases hkind : kind = first
        · simp [hkind, hcount]
        · simp [hkind, beq_false_of_ne hkind]

theorem increment_of_lt {table : List (NodeKind × Nat)}
    (hlater : ∀ entry ∈ table, kind.rank < entry.1.rank) :
    increment kind table = (kind, 1) :: table := by
  cases table with
  | nil => rfl
  | cons entry table =>
      have hfirst : kind.rank < entry.1.rank := hlater entry List.mem_cons_self
      have hne : kind ≠ entry.1 := by
        intro hsame
        rw [hsame] at hfirst
        omega
      simp [increment, hne, hfirst]

theorem increment_occurring (hsorted : kinds.Pairwise fun kind later => kind.rank < later.rank)
    (hmem : kind ∈ kinds) (count : NodeKind → Nat) :
    increment kind (occurring kinds count) =
      occurring kinds (Function.update count kind (count kind + 1)) := by
  induction kinds with
  | nil => contradiction
  | cons first kinds ih =>
      obtain ⟨hlater, hkinds⟩ := List.pairwise_cons.mp hsorted
      by_cases hkind : kind = first
      · subst hkind
        have hothers : occurring kinds (Function.update count kind (count kind + 1)) =
            occurring kinds count := by
          apply occurring_congr
          intro other hother
          have hrank := hlater other hother
          apply Function.update_of_ne
          rintro rfl
          omega
        have hnew : Function.update count kind (count kind + 1) kind ≠ 0 := by simp
        rw [occurring_cons_of_ne_zero hnew, hothers, Function.update_self]
        by_cases hcount : count kind = 0
        · rw [occurring_cons_of_eq_zero hcount, hcount]
          apply increment_of_lt
          intro entry hentry
          have hlisted := (map_fst_occurring_sublist kinds count).mem (List.mem_map_of_mem hentry)
          exact hlater entry.1 hlisted
        · rw [occurring_cons_of_ne_zero hcount]
          simp [increment]
      · have hbehind : kind ∈ kinds := (List.mem_cons.mp hmem).resolve_left hkind
        have hrank := hlater kind hbehind
        have hsame : Function.update count kind (count kind + 1) first = count first :=
          Function.update_of_ne (Ne.symm hkind) _ _
        by_cases hcount : count first = 0
        · rw [occurring_cons_of_eq_zero hcount, occurring_cons_of_eq_zero (hsame.trans hcount),
            ih hkinds hbehind]
        · have hcount' : Function.update count kind (count kind + 1) first ≠ 0 := by
            rwa [hsame]
          have hbefore : ¬kind.rank < first.rank := by omega
          rw [occurring_cons_of_ne_zero hcount, occurring_cons_of_ne_zero hcount', hsame,
            ← ih hkinds hbehind]
          simp [increment, hkind, hbefore]

theorem sum_occurring (kinds : List NodeKind) (count : NodeKind → Nat) :
    ((occurring kinds count).map Prod.snd).sum = (kinds.map count).sum := by
  induction kinds with
  | nil => rfl
  | cons first kinds ih =>
      by_cases hcount : count first = 0
      · rw [occurring_cons_of_eq_zero hcount, ih]
        simp [hcount]
      · rw [occurring_cons_of_ne_zero hcount]
        simp [ih]

end Occurring

theorem NodeKind.pairwise_rank : all.Pairwise fun kind later => kind.rank < later.rank := by
  decide

theorem countKinds_eq_occurring (nodes : List (Spanned Node)) :
    countKinds nodes = occurring NodeKind.all fun kind => countKind kind nodes := rfl

theorem tally_occurring (nodes : List (Spanned Node)) (count : NodeKind → Nat) :
    tally nodes (occurring NodeKind.all count) =
      occurring NodeKind.all fun kind => count kind + countKind kind nodes := by
  have hincrement (kind : NodeKind) (count : NodeKind → Nat) :=
    increment_occurring NodeKind.pairwise_rank kind.mem_all count
  induction nodes using treeInduction generalizing count with
  | nil => simp [tally, countKind]
  | definition heading contents terminated span rest hcontents hrest =>
      simp only [tally]
      rw [hincrement, hcontents, hrest]
      apply occurring_congr
      intro kind _
      by_cases hkind : kind = .macroDefinition
      · simp [countKind, hkind]
        omega
      · simp [countKind, hkind]
        omega
  | leaf item rest hleaf ih =>
      rw [tally_leaf hleaf, hincrement, ih]
      apply occurring_congr
      intro kind _
      rw [countKind_leaf hleaf]
      by_cases hkind : kind = item.kind
      · simp [hkind]
        omega
      · simp [hkind, Ne.symm hkind]

/-- The table that is filled along the way is the list of the kinds that occur. -/
theorem tally_eq_countKinds (nodes : List (Spanned Node)) : tally nodes [] = countKinds nodes := by
  have hempty : occurring NodeKind.all (fun _ => 0) = [] := rfl
  rw [← hempty, tally_occurring, countKinds_eq_occurring]
  simp

theorem sum_countP_kind (items : List (Spanned Node)) :
    (NodeKind.all.map fun kind => items.countP fun item => item.kind = kind).sum =
      items.length := by
  induction items with
  | nil => rfl
  | cons item items ih =>
      have hone : (NodeKind.all.map fun kind => if item.kind = kind then 1 else 0).sum = 1 := by
        cases item.kind <;> rfl
      simp only [List.countP_cons, decide_eq_true_eq, List.sum_map_add, hone, ih,
        List.length_cons]

/-! ## The walks side by side -/

/-- The walk over the objects comes to its end and hands out the traversal without the
definitions, the definitions are the rest of it, and the table gives each kind its number of
nodes in these two. -/
theorem walks_agree (nodes : List (Spanned Node)) :
    (∀ items, Yields [nodes] items ↔
        items = (preorder nodes).filter fun item => item.kind ≠ .macroDefinition) ∧
      (objects nodes = (preorder nodes).filter fun item => item.kind ≠ .macroDefinition) ∧
      (macroDefinitions nodes =
        (preorder nodes).filter fun item => item.kind = .macroDefinition) ∧
      tally nodes [] = countKinds nodes ∧
      ((countKinds nodes).map Prod.fst).Sublist NodeKind.all ∧
      (∀ kind, (countKinds nodes).lookup kind =
        Option.guard (· ≠ 0)
          (if kind = .macroDefinition then (macroDefinitions nodes).length
            else (objects nodes).countP fun item => item.kind = kind)) ∧
      ((countKinds nodes).map Prod.snd).sum =
        (objects nodes).length + (macroDefinitions nodes).length := by
  refine ⟨?_, objects_eq_filter_preorder nodes, macroDefinitions_eq_filter_preorder nodes,
    tally_eq_countKinds nodes, map_fst_occurring_sublist _ _, ?_, ?_⟩
  · intro items
    rw [yields_iff, ← objects_eq_filter_preorder]
    rfl
  · intro kind
    rw [countKinds_eq_occurring, lookup_occurring]
    by_cases hkind : kind = .macroDefinition
    · simp [hkind, countKind_macroDefinition, NodeKind.mem_all, Option.guard]
    · simp [hkind, countKind_of_ne, NodeKind.mem_all, Option.guard]
  · rw [countKinds_eq_occurring, sum_occurring, ← length_preorder, ← sum_countP_kind]
    simp only [countKind_eq]

end SasOutline
