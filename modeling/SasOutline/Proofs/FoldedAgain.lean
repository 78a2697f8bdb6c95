import SasOutline.Proofs.MacroDelimiters

/-!
# Folding a folded list

Line ends, opening markers and their closing markers are all that a fold takes out of a
list.  Everything else stays, and that includes the macro definitions which the list already
contains, with whatever they hold.  So a fold leaves nothing for a second one to do.

The relation `IsFold` describes the fold marker by marker, from the front of the list.  It
tells the definitions that were made of markers from those that were there before.
-/

namespace SasOutline

/-- What a list folds into.  A closing marker without a partner is kept like any other node. -/
inductive IsFold : List (Spanned Node) → List (Spanned Node) → Prop
  | nil : IsFold [] []
  | newline {span : Span} {nodes tree : List (Spanned Node)} (hrest : IsFold nodes tree) :
      IsFold (⟨.newline, span⟩ :: nodes) tree
  | kept {item : Spanned Node} {nodes tree : List (Spanned Node)}
      (hnewline : item.kind ≠ .newline) (hstart : item.kind ≠ .macroStart)
      (hrest : IsFold nodes tree) : IsFold (item :: nodes) (item :: tree)
  | terminated {start : MacroStart} {opened closed : Span}
      {inside rest contents tree : List (Spanned Node)} (hbalanced : Balanced inside)
      (hinside : IsFold inside contents) (hrest : IsFold rest tree) :
      IsFold (⟨.macroStart start, opened⟩ :: (inside ++ ⟨.macroEnd, closed⟩ :: rest))
        (⟨.macroDefinition start.heading contents true, ⟨opened.start, closed.stop⟩⟩ :: tree)
  | unterminated {start : MacroStart} {opened : Span} {rest contents : List (Spanned Node)}
      (hopen : ∀ inside closed later, Balanced inside →
        rest ≠ inside ++ ⟨.macroEnd, closed⟩ :: later)
      (hrest : IsFold rest contents) :
      IsFold (⟨.macroStart start, opened⟩ :: rest)
        [⟨.macroDefinition start.heading contents false,
          ⟨opened.start, contentsStop opened contents⟩⟩]

/-- The node stands in the tree with these definitions around it, the outermost first. -/
inductive StandsInside : List (Spanned Node) → List (Spanned Node) → Spanned Node → Prop
  | here {tree : List (Spanned Node)} {item : Spanned Node} (hmem : item ∈ tree) :
      StandsInside tree [] item
  | inside {tree contents around : List (Spanned Node)} {heading : MacroHeading}
      {terminated : Bool} {span : Span} {item : Spanned Node}
      (hmem : ⟨.macroDefinition heading contents terminated, span⟩ ∈ tree)
      (hinside : StandsInside contents around item) :
      StandsInside tree (⟨.macroDefinition heading contents terminated, span⟩ :: around) item

/-! ## The fold from the front of a list -/

section Front

variable (rest : List (Spanned Node))

theorem foldMacros_newline (span : Span) :
    foldMacros (⟨.newline, span⟩ :: rest) = foldMacros rest := rfl

theorem foldMacros_kept {item : Spanned Node} (hnewline : item.kind ≠ .newline)
    (hstart : item.kind ≠ .macroStart) :
    foldMacros (item :: rest) = item :: foldMacros rest := by
  unfold foldMacros
  by_cases hend : item.kind = .macroEnd
  · obtain ⟨node, span⟩ := item
    cases node <;> simp [Spanned.kind, Node.kind] at hend
    exact FoldedNodes.toList_close _ span
  · rw [foldNodes_other hstart hend, if_neg hnewline, FoldedNodes.toList_push]

variable (start : MacroStart) (opened : Span)

theorem foldMacros_terminated {inside : List (Spanned Node)} (hinside : Balanced inside)
    (closed : Span) :
    foldMacros (⟨.macroStart start, opened⟩ :: (inside ++ ⟨.macroEnd, closed⟩ :: rest)) =
      ⟨.macroDefinition start.heading (foldMacros inside) true,
        ⟨opened.start, closed.stop⟩⟩ :: foldMacros rest := by
  have hpair := foldNodes_pair hinside.foldNodes_append start opened closed rest
  unfold foldMacros at hpair ⊢
  rw [hpair, FoldedNodes.toList_push]
  rfl

theorem foldMacros_unterminated (hnone : (foldNodes rest).closings = []) :
    foldMacros (⟨.macroStart start, opened⟩ :: rest) =
      [⟨.macroDefinition start.heading (foldMacros rest) false,
        ⟨opened.start, contentsStop opened (foldMacros rest)⟩⟩] := by
  have hrest : foldNodes rest = ⟨(foldNodes rest).leading, []⟩ := by
    rw [← hnone]
  have htree : foldMacros rest = (foldNodes rest).leading := by
    unfold foldMacros
    rw [hrest, FoldedNodes.toList_without_closings]
  unfold foldMacros at htree ⊢
  simp only [foldNodes]
  rw [htree, hrest, FoldedNodes.toList_enclose_without_closings]

end Front

/-! ## The relation and the fold -/

theorem isFold_foldMacros (nodes : List (Spanned Node)) : IsFold nodes (foldMacros nodes) := by
  -- Behind a pair the list goes on after the closing marker, hence the length.
  induction hlength : nodes.length using Nat.strong_induction_on generalizing nodes with
  | _ length ih =>
  cases nodes with
  | nil => exact IsFold.nil
  | cons item rest =>
      have hshorter : rest.length < length := by
        simp only [List.length_cons] at hlength
        omega
      by_cases hnewline : item.kind = .newline
      · obtain ⟨node, span⟩ := item
        cases node <;> simp [Spanned.kind, Node.kind] at hnewline
        rw [foldMacros_newline]
        exact IsFold.newline (ih rest.length hshorter rest rfl)
      by_cases hstart : item.kind = .macroStart
      · obtain ⟨node, opened⟩ := item
        cases node <;> simp [Spanned.kind, Node.kind] at hstart
        next start =>
        cases hclosings : (foldNodes rest).closings with
        | nil =>
            rw [foldMacros_unterminated rest start opened hclosings]
            apply IsFold.unterminated
            · rintro inside closed later hbalanced rfl
              exact hbalanced.closings_ne_nil closed later hclosings
            · exact ih rest.length hshorter rest rfl
        | cons partner later =>
            obtain ⟨inside, after, hrest, hbalanced, -⟩ := exists_balanced_of_closings hclosings
            have hless : inside.length < length ∧ after.length < length := by
              rw [hrest] at hshorter
              simp only [List.length_append, List.length_cons] at hshorter
              omega
            rw [hrest, foldMacros_terminated after start opened hbalanced]
            apply IsFold.terminated hbalanced
            · exact ih inside.length hless.1 inside rfl
            · exact ih after.length hless.2 after rfl
      · rw [foldMacros_kept rest hnewline hstart]
        exact IsFold.kept hnewline hstart (ih rest.length hshorter rest rfl)

theorem IsFold.eq_foldMacros {nodes tree : List (Spanned Node)} (h : IsFold nodes tree) :
    tree = foldMacros nodes := by
  induction h with
  | nil => rfl
  | newline _ ih => exact ih
  | kept hnewline hstart _ ih => rw [foldMacros_kept _ hnewline hstart, ih]
  | terminated hbalanced _ _ ihInside ihRest =>
      rw [foldMacros_terminated _ _ _ hbalanced, ihInside, ihRest]
  | @unterminated start opened rest contents hopen _ ih =>
      have hnone : (foldNodes rest).closings = [] := by
        cases hclosings : (foldNodes rest).closings with
        | nil => rfl
        | cons partner later =>
            obtain ⟨inside, after, hrest, hbalanced, -⟩ := exists_balanced_of_closings hclosings
            exact absurd hrest (hopen inside partner.1 after hbalanced)
      rw [foldMacros_unterminated rest start opened hnone, ← ih]

/-! ## What stands in a fold -/

theorem IsFold.kinds {nodes tree : List (Spanned Node)} (h : IsFold nodes tree) :
    ∀ item ∈ tree, item.kind ≠ .newline ∧ item.kind ≠ .macroStart := by
  induction h with
  | nil => simp
  | newline _ ih => exact ih
  | kept hnewline hstart _ ih =>
      rw [List.forall_mem_cons]
      exact ⟨⟨hnewline, hstart⟩, ih⟩
  | terminated _ _ _ _ ih =>
      rw [List.forall_mem_cons]
      exact ⟨by simp [Spanned.kind, Node.kind], ih⟩
  | unterminated _ _ _ => simp [Spanned.kind, Node.kind]

/-- A list without line ends and opening markers is its own fold. -/
theorem foldMacros_eq_self {tree : List (Spanned Node)}
    (hkinds : ∀ item ∈ tree, item.kind ≠ .newline ∧ item.kind ≠ .macroStart) :
    foldMacros tree = tree := by
  induction tree with
  | nil => rfl
  | cons item rest ih =>
      obtain ⟨⟨hnewline, hstart⟩, hrest⟩ := List.forall_mem_cons.mp hkinds
      rw [foldMacros_kept rest hnewline hstart, ih hrest]

/-- Among the definitions of a fold are those of its list, in their order. -/
theorem IsFold.definitions_sublist {nodes tree : List (Spanned Node)} (h : IsFold nodes tree) :
    (nodes.filter fun item => item.kind = .macroDefinition).Sublist (macroDefinitions tree) := by
  induction h with
  | nil => exact List.nil_sublist _
  | newline _ ih => exact ih
  | @kept item nodes tree _ _ _ ih =>
      by_cases hdefinition : item.kind = .macroDefinition
      · rw [List.filter_cons_of_pos (by simpa using hdefinition)]
        obtain ⟨node, span⟩ := item
        cases node <;> simp [Spanned.kind, Node.kind] at hdefinition
        simp only [macroDefinitions]
        exact (ih.trans (List.sublist_append_right _ _)).cons_cons _
      · rw [List.filter_cons_of_neg (by simpa using hdefinition),
          macroDefinitions_leaf hdefinition]
        exact ih
  | @terminated start opened closed inside rest contents tree _ _ _ ihInside ihRest =>
      have hmarkers : (⟨.macroStart start, opened⟩ :: (inside ++ ⟨.macroEnd, closed⟩ :: rest) :
            List (Spanned Node)).filter (fun item => item.kind = .macroDefinition) =
          inside.filter (fun item => item.kind = .macroDefinition) ++
            rest.filter fun item => item.kind = .macroDefinition := by
        simp [Spanned.kind, Node.kind]
      rw [hmarkers]
      simp only [macroDefinitions]
      exact (ihInside.append ihRest).cons _
  | unterminated _ _ ih =>
      rw [List.filter_cons_of_neg (by simp [Spanned.kind, Node.kind])]
      simp only [macroDefinitions, List.append_nil]
      exact ih.cons _

namespace StandsInside

theorem not_nil {around : List (Spanned Node)} {item : Spanned Node} :
    ¬StandsInside [] around item := by
  intro h
  cases h <;> contradiction

/-- A node of a tree is its first node, or stands inside of it, or belongs to the others. -/
theorem of_cons {first item : Spanned Node} {tree around : List (Spanned Node)}
    (h : StandsInside (first :: tree) around item) :
    item = first ∨
      (∃ heading contents terminated span outer,
        first = ⟨.macroDefinition heading contents terminated, span⟩ ∧
          around = first :: outer ∧ StandsInside contents outer item) ∨
      StandsInside tree around item := by
  cases h with
  | here hmem =>
      rcases List.mem_cons.mp hmem with hfirst | hlater
      · exact Or.inl hfirst
      · exact Or.inr (Or.inr (.here hlater))
  | inside hmem hinside =>
      rcases List.mem_cons.mp hmem with hfirst | hlater
      · exact Or.inr (Or.inl ⟨_, _, _, _, _, hfirst.symm, by rw [hfirst], hinside⟩)
      · exact Or.inr (Or.inr (.inside hlater hinside))

end StandsInside

/-- A line end or an opening marker in a fold stands inside of a definition that the list
contained. -/
theorem IsFold.marker_inside {nodes tree : List (Spanned Node)} (h : IsFold nodes tree)
    {around : List (Spanned Node)} {item : Spanned Node} (hitem : StandsInside tree around item)
    (hmarker : item.kind = .newline ∨ item.kind = .macroStart) :
    ∃ definition ∈ around, definition ∈ nodes := by
  induction h generalizing around with
  | nil => exact absurd hitem StandsInside.not_nil
  | newline _ ih =>
      obtain ⟨definition, haround, hmem⟩ := ih hitem
      exact ⟨definition, haround, List.mem_cons_of_mem _ hmem⟩
  | @kept first nodes tree hnewline hstart _ ih =>
      rcases hitem.of_cons with rfl | ⟨_, _, _, _, outer, -, rfl, -⟩ | hlater
      · rcases hmarker with hkind | hkind
        · exact absurd hkind hnewline
        · exact absurd hkind hstart
      · exact ⟨first, List.mem_cons_self, List.mem_cons_self⟩
      · obtain ⟨definition, haround, hmem⟩ := ih hlater
        exact ⟨definition, haround, List.mem_cons_of_mem first hmem⟩
  | terminated _ _ _ ihInside ihRest =>
      rcases hitem.of_cons with rfl | ⟨_, _, _, _, outer, hfirst, rfl, hinside⟩ | hlater
      · simp [Spanned.kind, Node.kind] at hmarker
      · simp only [Spanned.mk.injEq, Node.macroDefinition.injEq] at hfirst
        obtain ⟨⟨-, rfl, -⟩, -⟩ := hfirst
        obtain ⟨definition, haround, hmem⟩ := ihInside hinside
        exact ⟨definition, List.mem_cons_of_mem _ haround, by simp [hmem]⟩
      · obtain ⟨definition, haround, hmem⟩ := ihRest hlater
        exact ⟨definition, haround, by simp [hmem]⟩
  | unterminated _ _ ih =>
      rcases hitem.of_cons with rfl | ⟨_, _, _, _, outer, hfirst, rfl, hinside⟩ | hlater
      · simp [Spanned.kind, Node.kind] at hmarker
      · simp only [Spanned.mk.injEq, Node.macroDefinition.injEq] at hfirst
        obtain ⟨⟨-, rfl, -⟩, -⟩ := hfirst
        obtain ⟨definition, haround, hmem⟩ := ih hinside
        exact ⟨definition, List.mem_cons_of_mem _ haround, List.mem_cons_of_mem _ hmem⟩
      · exact absurd hlater StandsInside.not_nil

/-- A second fold changes nothing, the fold is the one tree made of the list in this way, the
definitions of the list are all in it, and only inside of them are there line ends and
opening markers. -/
theorem foldMacros_idempotent (nodes : List (Spanned Node)) :
    foldMacros (foldMacros nodes) = foldMacros nodes ∧
      (∀ tree, IsFold nodes tree ↔ tree = foldMacros nodes) ∧
      (nodes.filter fun item => item.kind = .macroDefinition).Sublist
        (macroDefinitions (foldMacros nodes)) ∧
      ∀ around item, StandsInside (foldMacros nodes) around item →
        item.kind = .newline ∨ item.kind = .macroStart →
          ∃ definition ∈ around, definition ∈ nodes := by
  have hfold := isFold_foldMacros nodes
  refine ⟨foldMacros_eq_self hfold.kinds, ?_, hfold.definitions_sublist, ?_⟩
  · intro tree
    constructor
    · exact IsFold.eq_foldMacros
    · rintro rfl
      exact hfold
  · intro around item hitem hmarker
    exact hfold.marker_inside hitem hmarker

def regionOf (line : Nat) : Span := ⟨⟨line, 4⟩, ⟨line, 9⟩⟩

/-- A definition as no fold makes it: there is a line end in it, and a marker that was never
paired. -/
def earlierDefinition : Spanned Node :=
  ⟨.macroDefinition ⟨"earlier", none, none⟩
    [⟨.newline, regionOf 3⟩, ⟨.macroStart ⟨.ofLiteral "x", none, none⟩, regionOf 4⟩] true,
    regionOf 5⟩

/-- A stray closing marker, a pair around the definition, and a marker left open. -/
def markedList : List (Spanned Node) :=
  [⟨.macroEnd, regionOf 1⟩,
   ⟨.macroStart ⟨.ofLiteral "outer", none, none⟩, regionOf 2⟩,
   earlierDefinition,
   ⟨.newline, regionOf 6⟩,
   ⟨.macroEnd, regionOf 7⟩,
   ⟨.macroStart ⟨.ofLiteral "last", none, none⟩, regionOf 8⟩]

def outerDefinition : Spanned Node :=
  ⟨.macroDefinition ⟨"outer", none, none⟩ [earlierDefinition] true, ⟨⟨2, 4⟩, ⟨7, 9⟩⟩⟩

def markedTree : List (Spanned Node) :=
  [⟨.macroEnd, regionOf 1⟩, outerDefinition,
   ⟨.macroDefinition ⟨"last", none, none⟩ [] false, regionOf 8⟩]

theorem foldMacros_idempotent_of_marked :
    foldMacros markedList = markedTree ∧ foldMacros markedTree = markedTree ∧
      IsFold markedList markedTree ∧
      StandsInside markedTree [outerDefinition, earlierDefinition] ⟨.newline, regionOf 3⟩ ∧
      ∃ definition ∈ [outerDefinition, earlierDefinition], definition ∈ markedList := by
  have hfold : foldMacros markedList = markedTree := rfl
  obtain ⟨hagain, htree, -, hmarkers⟩ := foldMacros_idempotent markedList
  rw [hfold] at hagain hmarkers
  have hinside : StandsInside markedTree [outerDefinition, earlierDefinition]
      ⟨.newline, regionOf 3⟩ := by
    apply StandsInside.inside (by simp [markedTree, outerDefinition])
    apply StandsInside.inside (by simp [earlierDefinition])
    exact StandsInside.here (by simp)
  exact ⟨hfold, hagain, (htree markedTree).mpr hfold.symm, hinside,
    hmarkers _ _ hinside (Or.inl rfl)⟩

end SasOutline
