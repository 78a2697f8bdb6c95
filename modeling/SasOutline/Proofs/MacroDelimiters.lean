import SasOutline.Proofs.MacroMarks

/-!
# The markers of a macro definition

Behind an opening marker stands its own closing marker when the nodes in between
are balanced, that is, when every marker among them has its partner there as well.
A definition in a folded list holds the fold of these nodes, and its span runs from
the one marker to the other.  An opening marker without such a partner takes
everything behind it.
-/

namespace SasOutline

/-- Every marker has its partner in the list. -/
inductive Balanced : List (Spanned Node) → Prop
  | nil : Balanced []
  | other {item : Spanned Node} {rest : List (Spanned Node)} (hstart : item.kind ≠ .macroStart)
      (hend : item.kind ≠ .macroEnd) (hrest : Balanced rest) : Balanced (item :: rest)
  | pair {start : MacroStart} {opened closed : Span} {inside rest : List (Spanned Node)}
      (hinside : Balanced inside) (hrest : Balanced rest) :
      Balanced (⟨.macroStart start, opened⟩ :: (inside ++ ⟨.macroEnd, closed⟩ :: rest))

/-- The end of the last node, or of the marker in front when there is none. -/
def contentsStop (opened : Span) (contents : List (Spanned Node)) : Position :=
  match contents.getLast? with
  | some last => last.span.stop
  | none => opened.stop

/-- A definition with this heading, these contents and this span belongs to an
opening marker of the list, and to its own closing marker when it is terminated. -/
inductive IsDelimited (nodes : List (Spanned Node)) :
    MacroHeading → List (Spanned Node) → Bool → Span → Prop
  | terminated {before inside after : List (Spanned Node)} {start : MacroStart}
      {opened closed : Span}
      (hnodes : nodes = before ++
        ⟨.macroStart start, opened⟩ :: (inside ++ ⟨.macroEnd, closed⟩ :: after))
      (hinside : Balanced inside) :
      IsDelimited nodes start.heading (foldMacros inside) true ⟨opened.start, closed.stop⟩
  | unterminated {before after : List (Spanned Node)} {start : MacroStart} {opened : Span}
      (hnodes : nodes = before ++ ⟨.macroStart start, opened⟩ :: after)
      (hopen : ∀ inside closed later, Balanced inside →
        after ≠ inside ++ ⟨.macroEnd, closed⟩ :: later) :
      IsDelimited nodes start.heading (foldMacros after) false
        ⟨opened.start, contentsStop opened (foldMacros after)⟩

theorem IsDelimited.cons {nodes contents : List (Spanned Node)} {heading : MacroHeading}
    {terminated : Bool} {span : Span} (h : IsDelimited nodes heading contents terminated span)
    (item : Spanned Node) : IsDelimited (item :: nodes) heading contents terminated span := by
  cases h with
  | @terminated before inside after start opened closed hnodes hinside =>
      have hitem : item :: nodes = (item :: before) ++
          ⟨.macroStart start, opened⟩ :: (inside ++ ⟨.macroEnd, closed⟩ :: after) := by
        rw [hnodes, List.cons_append]
      exact .terminated hitem hinside
  | @unterminated before after start opened hnodes hopen =>
      have hitem : item :: nodes =
          (item :: before) ++ ⟨.macroStart start, opened⟩ :: after := by
        rw [hnodes, List.cons_append]
      exact .unterminated hitem hopen

/-! ## Balanced nodes in front -/

namespace FoldedNodes

/-- Put nodes without markers in front. -/
def behind (folded : FoldedNodes) (tree : List (Spanned Node)) : FoldedNodes :=
  ⟨tree ++ folded.leading, folded.closings⟩

theorem toList_push (folded : FoldedNodes) (item : Spanned Node) :
    (folded.push item).toList = item :: folded.toList := rfl

theorem toList_close (folded : FoldedNodes) (span : Span) :
    (folded.close span).toList = ⟨.macroEnd, span⟩ :: folded.toList := rfl

theorem covering_lastSpan (opened : Span) (contents : List (Spanned Node)) :
    Span.covering opened (lastSpan opened contents) =
      ⟨opened.start, contentsStop opened contents⟩ := by
  unfold lastSpan contentsStop
  cases contents.getLast? <;> rfl

section Closings

variable (leading : List (Spanned Node)) (closed : Span) (following : List (Spanned Node))
  (later : List (Span × List (Spanned Node))) (start : MacroStart) (opened : Span)

theorem toList_without_closings : (FoldedNodes.mk leading []).toList = leading :=
  List.append_nil leading

theorem toList_closing :
    (FoldedNodes.mk leading ((closed, following) :: later)).toList =
      leading ++ ⟨.macroEnd, closed⟩ :: (FoldedNodes.mk following later).toList := by
  simp [toList]

theorem toList_enclose_without_closings :
    (enclose ⟨leading, []⟩ start opened).toList =
      [⟨.macroDefinition start.heading leading false,
        ⟨opened.start, contentsStop opened leading⟩⟩] := by
  rw [← covering_lastSpan]
  rfl

theorem toList_enclose_closing :
    (enclose ⟨leading, (closed, following) :: later⟩ start opened).toList =
      ⟨.macroDefinition start.heading leading true, ⟨opened.start, closed.stop⟩⟩ ::
        (FoldedNodes.mk following later).toList := rfl

end Closings

end FoldedNodes

theorem foldNodes_other {item : Spanned Node} (hstart : item.kind ≠ .macroStart)
    (hend : item.kind ≠ .macroEnd) (rest : List (Spanned Node)) :
    foldNodes (item :: rest) =
      if item.kind = .newline then foldNodes rest else (foldNodes rest).push item := by
  obtain ⟨node, span⟩ := item
  cases node <;> simp_all [foldNodes, Spanned.kind, Node.kind]

/-- A pair becomes one definition when the nodes inside fold on their own. -/
theorem foldNodes_pair {inside : List (Spanned Node)}
    (hinside : ∀ more, foldNodes (inside ++ more) = (foldNodes more).behind (foldMacros inside))
    (start : MacroStart) (opened closed : Span) (more : List (Spanned Node)) :
    foldNodes (⟨.macroStart start, opened⟩ :: (inside ++ ⟨.macroEnd, closed⟩ :: more)) =
      (foldNodes more).push
        ⟨.macroDefinition start.heading (foldMacros inside) true, .covering opened closed⟩ := by
  have hfold : foldNodes (inside ++ ⟨.macroEnd, closed⟩ :: more) =
      ((foldNodes more).close closed).behind (foldMacros inside) := hinside _
  simp only [foldNodes]
  rw [hfold]
  simp [FoldedNodes.enclose, FoldedNodes.behind, FoldedNodes.close, FoldedNodes.push]

theorem Balanced.foldNodes_append {inside : List (Spanned Node)} (h : Balanced inside)
    (more : List (Spanned Node)) :
    foldNodes (inside ++ more) = (foldNodes more).behind (foldMacros inside) := by
  induction h generalizing more with
  | nil => rfl
  | @other item rest hstart hend _ ih =>
      have hitem : foldMacros (item :: rest) =
          if item.kind = .newline then foldMacros rest else item :: foldMacros rest := by
        unfold foldMacros
        rw [foldNodes_other hstart hend]
        by_cases hnewline : item.kind = .newline
        · rw [if_pos hnewline, if_pos hnewline]
        · rw [if_neg hnewline, if_neg hnewline, FoldedNodes.toList_push]
      rw [List.cons_append, foldNodes_other hstart hend, ih, hitem]
      by_cases hnewline : item.kind = .newline
      · rw [if_pos hnewline, if_pos hnewline]
      · rw [if_neg hnewline, if_neg hnewline]
        rfl
  | @pair start opened closed inside rest _ _ ihInside ihRest =>
      have hpair : foldMacros
          (⟨.macroStart start, opened⟩ :: (inside ++ ⟨.macroEnd, closed⟩ :: rest)) =
          ⟨.macroDefinition start.heading (foldMacros inside) true,
            .covering opened closed⟩ :: foldMacros rest := by
        unfold foldMacros
        rw [foldNodes_pair ihInside, FoldedNodes.toList_push]
        rfl
      rw [List.cons_append, List.append_assoc, List.cons_append, foldNodes_pair ihInside,
        ihRest, hpair]
      rfl

/-- Nodes that end in a closing marker behind balanced ones leave it to a marker in
front of them. -/
theorem Balanced.closings_ne_nil {inside : List (Spanned Node)} (h : Balanced inside)
    (closed : Span) (later : List (Spanned Node)) :
    (foldNodes (inside ++ ⟨.macroEnd, closed⟩ :: later)).closings ≠ [] := by
  rw [h.foldNodes_append]
  simp [foldNodes, FoldedNodes.close, FoldedNodes.behind]

/-! ## Closing markers without a partner -/

/-- Up to its first closing marker without a partner a list is balanced. -/
theorem exists_balanced_of_closings {nodes following : List (Spanned Node)} {closed : Span}
    {later : List (Span × List (Spanned Node))}
    (h : (foldNodes nodes).closings = (closed, following) :: later) :
    ∃ inside after, nodes = inside ++ ⟨.macroEnd, closed⟩ :: after ∧ Balanced inside ∧
      foldNodes after = ⟨following, later⟩ := by
  -- Behind the partner of a first marker the list is searched again, hence its length.
  induction hlength : nodes.length using Nat.strong_induction_on
    generalizing nodes closed following later with
  | _ length ih =>
  cases nodes with
  | nil => contradiction
  | cons item rest =>
      have hshorter : rest.length < length := by
        rw [← hlength]
        exact Nat.lt_succ_self _
      obtain ⟨node, span⟩ := item
      cases node with
      | macroStart start =>
          simp only [foldNodes] at h
          cases hclosings : (foldNodes rest).closings with
          | nil => simp [FoldedNodes.enclose, hclosings] at h
          | cons partner behind =>
              -- The first marker closes this definition, the next one is what is left.
              simp only [FoldedNodes.enclose, hclosings] at h
              obtain ⟨inside, middle, hrest, hinside, hmiddle⟩ :=
                ih rest.length hshorter hclosings rfl
              have hless : middle.length < length := by
                rw [hrest] at hshorter
                simp only [List.length_append, List.length_cons] at hshorter
                omega
              have hleft : (foldNodes middle).closings = (closed, following) :: later := by
                rw [hmiddle, h]
              obtain ⟨between, after, hbetween, hbalanced, hafter⟩ :=
                ih middle.length hless hleft rfl
              have hpair : Balanced (⟨.macroStart start, span⟩ ::
                  (inside ++ ⟨.macroEnd, partner.1⟩ :: between)) :=
                .pair hinside hbalanced
              refine ⟨_, after, ?_, hpair, hafter⟩
              rw [hrest, hbetween]
              simp
      | macroEnd =>
          simp only [foldNodes, FoldedNodes.close, List.cons.injEq, Prod.mk.injEq] at h
          obtain ⟨⟨rfl, rfl⟩, rfl⟩ := h
          exact ⟨[], rest, rfl, .nil, rfl⟩
      | _ =>
          simp only [foldNodes, FoldedNodes.push] at h
          obtain ⟨inside, after, hnodes, hinside, hafter⟩ := ih rest.length hshorter h rfl
          refine ⟨_ :: inside, after, congrArg (_ :: ·) hnodes, ?_, hafter⟩
          apply hinside.other
          · simp [Spanned.kind, Node.kind]
          · simp [Spanned.kind, Node.kind]

/-! ## The definitions of a fold -/

theorem macroDefinitions_append (tree other : List (Spanned Node)) :
    macroDefinitions (tree ++ other) = macroDefinitions tree ++ macroDefinitions other := by
  induction tree using treeInduction with
  | nil => simp [macroDefinitions]
  | definition heading contents terminated span rest _ hrest =>
      simp only [List.cons_append, macroDefinitions, List.append_assoc]
      rw [hrest]
  | leaf item rest hleaf ih =>
      rw [List.cons_append, macroDefinitions_leaf hleaf, macroDefinitions_leaf hleaf, ih]

/-- An opening marker adds one definition to those behind it, with the markers that
delimit it. -/
theorem isDelimited_enclose {rest : List (Spanned Node)} {start : MacroStart} {opened : Span}
    {heading : MacroHeading} {contents : List (Spanned Node)} {terminated : Bool} {span : Span}
    (hmem : ⟨.macroDefinition heading contents terminated, span⟩ ∈
      macroDefinitions ((foldNodes rest).enclose start opened).toList) :
    ⟨.macroDefinition heading contents terminated, span⟩ ∈ macroDefinitions (foldMacros rest) ∨
      IsDelimited (⟨.macroStart start, opened⟩ :: rest) heading contents terminated span := by
  rcases hfolded : foldNodes rest with ⟨leading, closings⟩
  rw [hfolded] at hmem
  cases closings with
  | nil =>
      have hrest : foldMacros rest = leading := by
        rw [foldMacros, hfolded, FoldedNodes.toList_without_closings]
      rw [FoldedNodes.toList_enclose_without_closings, ← hrest] at hmem
      simp only [macroDefinitions, List.append_nil, List.mem_cons, Spanned.mk.injEq,
        Node.macroDefinition.injEq] at hmem
      rcases hmem with ⟨⟨rfl, rfl, rfl⟩, rfl⟩ | hinside
      · have hopen : ∀ inside closed later, Balanced inside →
            rest ≠ inside ++ ⟨.macroEnd, closed⟩ :: later := by
          rintro inside closed later hinside rfl
          apply hinside.closings_ne_nil closed later
          rw [hfolded]
        exact Or.inr (.unterminated (List.nil_append _).symm hopen)
      · exact Or.inl hinside
  | cons partner later =>
      obtain ⟨closed, following⟩ := partner
      obtain ⟨inside, after, rfl, hinside, -⟩ := exists_balanced_of_closings
        (congrArg FoldedNodes.closings hfolded)
      have hleading : foldMacros inside = leading := by
        have happend := hinside.foldNodes_append (⟨.macroEnd, closed⟩ :: after)
        rw [hfolded] at happend
        simpa [foldNodes, FoldedNodes.close, FoldedNodes.behind] using
          (congrArg FoldedNodes.leading happend).symm
      have hmarker : (⟨.macroEnd, closed⟩ : Spanned Node).kind ≠ .macroDefinition := by
        simp [Spanned.kind, Node.kind]
      rw [FoldedNodes.toList_enclose_closing, ← hleading] at hmem
      simp only [macroDefinitions, List.mem_cons, List.mem_append, Spanned.mk.injEq,
        Node.macroDefinition.injEq] at hmem
      rw [foldMacros, hfolded, FoldedNodes.toList_closing, macroDefinitions_append,
        macroDefinitions_leaf hmarker, ← hleading]
      rcases hmem with ⟨⟨rfl, rfl, rfl⟩, rfl⟩ | hinner | hbehind
      · exact Or.inr (.terminated (List.nil_append _).symm hinside)
      · exact Or.inl (List.mem_append_left _ hinner)
      · exact Or.inl (List.mem_append_right _ hbehind)

theorem isDelimited_of_mem_macroDefinitions {nodes : List (Spanned Node)}
    (hflat : ∀ item ∈ nodes, item.kind ≠ .macroDefinition) {heading : MacroHeading}
    {contents : List (Spanned Node)} {terminated : Bool} {span : Span}
    (hmem : ⟨.macroDefinition heading contents terminated, span⟩ ∈
      macroDefinitions (foldMacros nodes)) :
    IsDelimited nodes heading contents terminated span := by
  induction nodes with
  | nil => simp [foldMacros, foldNodes, FoldedNodes.empty, FoldedNodes.toList,
      macroDefinitions] at hmem
  | cons item rest ih =>
      have hrest := ih fun other hother => hflat other (List.mem_cons_of_mem item hother)
      have hitem := hflat item List.mem_cons_self
      unfold foldMacros at hmem
      obtain ⟨node, region⟩ := item
      cases node with
      | newline => exact (hrest hmem).cons _
      | macroStart start =>
          simp only [foldNodes] at hmem
          rcases isDelimited_enclose hmem with hbehind | hhere
          · exact (hrest hbehind).cons _
          · exact hhere
      | macroEnd =>
          simp only [foldNodes] at hmem
          rw [FoldedNodes.toList_close, macroDefinitions_leaf hitem] at hmem
          exact (hrest hmem).cons _
      | macroDefinition => exact absurd rfl hitem
      | _ =>
          simp only [foldNodes] at hmem
          rw [FoldedNodes.toList_push, macroDefinitions_leaf hitem] at hmem
          exact (hrest hmem).cons _

end SasOutline
