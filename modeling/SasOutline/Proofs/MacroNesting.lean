import SasOutline.Proofs.MacroMarks

/-!
# Where a tree of macro definitions stays open

Closing markers that belong to no definition stay outside of all of them, an open
definition is the last of its list, and it stands inside of open ones only.  The
fold of a flat list is such a tree.

The induction over a list uses the same facts in another form, which goes along
the tree and says for every list whether it may stay open.
-/

namespace SasOutline

/-- The tree itself and the contents of its definitions at any depth. -/
def IsLevel (tree level : List (Spanned Node)) : Prop :=
  level = tree ∨ ∃ heading terminated span,
    ⟨.macroDefinition heading level terminated, span⟩ ∈ macroDefinitions tree

/-- No closing marker inside a definition, nothing behind an open definition, and
only open definitions around it. -/
structure IsNested (tree : List (Spanned Node)) : Prop where
  stray_outside : ∀ heading contents terminated span,
    ⟨.macroDefinition heading contents terminated, span⟩ ∈ macroDefinitions tree →
      ∀ item ∈ contents, item.kind ≠ .macroEnd
  unterminated_last : ∀ level, IsLevel tree level →
    ∀ before heading contents span after,
      level = before ++ ⟨.macroDefinition heading contents false, span⟩ :: after →
        after = []
  unterminated_around : ∀ outer contents terminated span inner body region,
    ⟨.macroDefinition outer contents terminated, span⟩ ∈ macroDefinitions tree →
      ⟨.macroDefinition inner body false, region⟩ ∈ macroDefinitions contents →
        terminated = false

/-! ## Level by level -/

/-- Closing markers stay nodes only where `strays` allows them, and a definition
stays open only where `unfinished` allows it, as the last of its list.  Inside a
definition no closing marker stays a node, and a terminated definition holds no
open one. -/
def WellNested (strays unfinished : Bool) : List (Spanned Node) → Prop
  | [] => True
  | ⟨.macroDefinition _ contents terminated, _⟩ :: rest =>
      WellNested false (!terminated) contents ∧
        (terminated = false → unfinished = true ∧ rest = []) ∧
        WellNested strays unfinished rest
  | item :: rest => (item.kind = .macroEnd → strays = true) ∧ WellNested strays unfinished rest

theorem wellNested_leaf {strays unfinished : Bool} {item : Spanned Node}
    (hleaf : item.kind ≠ .macroDefinition) (rest : List (Spanned Node)) :
    WellNested strays unfinished (item :: rest) ↔
      (item.kind = .macroEnd → strays = true) ∧ WellNested strays unfinished rest := by
  obtain ⟨node, span⟩ := item
  cases node <;> simp_all [WellNested, Spanned.kind, Node.kind]

/-- Closed nodes may stand in front of a list that stays open, and a list inside a
definition may stand outside of all. -/
theorem WellNested.append {unfinished : Bool} {closed rest : List (Spanned Node)}
    (hclosed : WellNested false false closed) (hrest : WellNested true unfinished rest) :
    WellNested true unfinished (closed ++ rest) := by
  induction closed using treeInduction with
  | nil => exact hrest
  | definition heading contents terminated span closed _ ih =>
      simp only [WellNested] at hclosed
      obtain ⟨hcontents, hlast, hclosed⟩ := hclosed
      simp only [List.cons_append, WellNested]
      refine ⟨hcontents, ?_, ih hclosed⟩
      intro hopen
      exact absurd (hlast hopen).1 (by decide)
  | leaf item closed hleaf ih =>
      rw [wellNested_leaf hleaf] at hclosed
      rw [List.cons_append, wellNested_leaf hleaf]
      exact ⟨fun _ => rfl, ih hclosed.2⟩

theorem WellNested.outside {unfinished : Bool} {level : List (Spanned Node)}
    (hnested : WellNested false unfinished level) : WellNested true unfinished level := by
  induction level using treeInduction with
  | nil => simp [WellNested]
  | definition heading contents terminated span rest _ ih =>
      simp only [WellNested] at hnested ⊢
      exact ⟨hnested.1, hnested.2.1, ih hnested.2.2⟩
  | leaf item rest hleaf ih =>
      rw [wellNested_leaf hleaf] at hnested ⊢
      exact ⟨fun _ => rfl, ih hnested.2⟩

/-! ## The fold -/

/-- The lists of a folded list are closed, except for the last of them. -/
def ClosedButLast (leading : List (Spanned Node)) :
    List (Span × List (Spanned Node)) → Prop
  | [] => WellNested false true leading
  | (_, following) :: closings =>
      WellNested false false leading ∧ ClosedButLast following closings

theorem ClosedButLast.cons {item : Spanned Node} {leading : List (Spanned Node)}
    {closings : List (Span × List (Spanned Node))}
    (hitem : ∀ unfinished, WellNested false unfinished leading →
      WellNested false unfinished (item :: leading))
    (hlevels : ClosedButLast leading closings) :
    ClosedButLast (item :: leading) closings := by
  cases closings with
  | nil =>
      simp only [ClosedButLast] at hlevels ⊢
      exact hitem true hlevels
  | cons closing closings =>
      simp only [ClosedButLast] at hlevels ⊢
      exact ⟨hitem false hlevels.1, hlevels.2⟩

theorem ClosedButLast.enclose {folded : FoldedNodes} (start : MacroStart) (opened : Span)
    (hlevels : ClosedButLast folded.leading folded.closings) :
    ClosedButLast (folded.enclose start opened).leading
      (folded.enclose start opened).closings := by
  unfold FoldedNodes.enclose
  cases hclosings : folded.closings with
  | nil =>
      rw [hclosings] at hlevels
      simp only [ClosedButLast, WellNested] at hlevels ⊢
      exact ⟨hlevels, by simp, trivial⟩
  | cons closing closings =>
      rw [hclosings] at hlevels
      simp only [ClosedButLast] at hlevels
      apply hlevels.2.cons
      intro unfinished hfollowing
      simp only [WellNested]
      exact ⟨hlevels.1, by simp, hfollowing⟩

theorem closedButLast_foldNodes (nodes : List (Spanned Node))
    (hflat : ∀ item ∈ nodes, item.kind ≠ .macroDefinition) :
    ClosedButLast (foldNodes nodes).leading (foldNodes nodes).closings := by
  induction nodes with
  | nil => simp [foldNodes, FoldedNodes.empty, ClosedButLast, WellNested]
  | cons item rest ih =>
      have hrest := ih fun other hmem => hflat other (List.mem_cons_of_mem item hmem)
      have hitem := hflat item List.mem_cons_self
      obtain ⟨node, span⟩ := item
      cases node with
      | newline => exact hrest
      | macroStart start => exact ClosedButLast.enclose start span hrest
      | macroEnd =>
          simp only [foldNodes, FoldedNodes.close, ClosedButLast, WellNested]
          exact ⟨trivial, hrest⟩
      | macroDefinition => exact absurd rfl hitem
      | _ =>
          simp only [foldNodes, FoldedNodes.push]
          apply hrest.cons
          intro unfinished hleading
          rw [wellNested_leaf hitem]
          exact ⟨by simp [Spanned.kind, Node.kind], hleading⟩

theorem ClosedButLast.wellNested {leading : List (Spanned Node)}
    {closings : List (Span × List (Spanned Node))}
    (hlevels : ClosedButLast leading closings) :
    WellNested true true (FoldedNodes.mk leading closings).toList := by
  induction closings generalizing leading with
  | nil =>
      simp only [FoldedNodes.toList, List.flatMap_nil, List.append_nil]
      exact hlevels.outside
  | cons closing closings ih =>
      obtain ⟨span, following⟩ := closing
      simp only [ClosedButLast] at hlevels
      have hbehind := ih hlevels.2
      simp only [FoldedNodes.toList, List.flatMap_cons, List.cons_append] at hbehind ⊢
      apply hlevels.1.append
      rw [wellNested_leaf (by simp [Spanned.kind, Node.kind])]
      exact ⟨fun _ => rfl, hbehind⟩

theorem wellNested_foldMacros (nodes : List (Spanned Node))
    (hflat : ∀ item ∈ nodes, item.kind ≠ .macroDefinition) :
    WellNested true true (foldMacros nodes) :=
  (closedButLast_foldNodes nodes hflat).wellNested

/-! ## Both forms agree -/

theorem WellNested.ne_macroEnd {unfinished : Bool} {level : List (Spanned Node)}
    (hnested : WellNested false unfinished level) :
    ∀ item ∈ level, item.kind ≠ .macroEnd := by
  induction level using treeInduction with
  | nil => simp
  | definition heading contents terminated span rest _ ih =>
      simp only [WellNested] at hnested
      intro item hmem
      rcases List.mem_cons.mp hmem with rfl | hmem
      · simp [Spanned.kind, Node.kind]
      · exact ih hnested.2.2 item hmem
  | leaf item rest hleaf ih =>
      rw [wellNested_leaf hleaf] at hnested
      intro other hmem
      rcases List.mem_cons.mp hmem with rfl | hmem
      · intro hend
        exact absurd (hnested.1 hend) (by decide)
      · exact ih hnested.2 other hmem

theorem WellNested.unterminated_last {strays unfinished : Bool} {heading : MacroHeading}
    {span : Span} {before contents after : List (Spanned Node)}
    (hnested : WellNested strays unfinished
      (before ++ ⟨.macroDefinition heading contents false, span⟩ :: after)) :
    after = [] := by
  induction before using treeInduction with
  | nil =>
      simp only [List.nil_append, WellNested] at hnested
      exact (hnested.2.1 trivial).2
  | definition other body terminated region rest _ ih =>
      simp only [List.cons_append, WellNested] at hnested
      exact ih hnested.2.2
  | leaf item rest hleaf ih =>
      rw [List.cons_append, wellNested_leaf hleaf] at hnested
      exact ih hnested.2

/-- A definition at any depth is nested in the way its own end asks for, and is
open only in a tree that may stay open. -/
theorem WellNested.of_mem_macroDefinitions {strays unfinished terminated : Bool}
    {heading : MacroHeading} {span : Span} {tree contents : List (Spanned Node)}
    (hnested : WellNested strays unfinished tree)
    (hmem : ⟨.macroDefinition heading contents terminated, span⟩ ∈ macroDefinitions tree) :
    WellNested false (!terminated) contents ∧ (terminated = false → unfinished = true) := by
  induction tree using treeInduction generalizing strays unfinished with
  | nil => simp [macroDefinitions] at hmem
  | definition other body closed region rest hbody hrest =>
      simp only [WellNested] at hnested
      simp only [macroDefinitions, List.mem_cons, List.mem_append] at hmem
      rcases hmem with hhere | hinside | hbehind
      · simp only [Spanned.mk.injEq, Node.macroDefinition.injEq] at hhere
        obtain ⟨⟨rfl, rfl, rfl⟩, rfl⟩ := hhere
        exact ⟨hnested.1, fun hopen => (hnested.2.1 hopen).1⟩
      · have hinner := hbody hnested.1 hinside
        refine ⟨hinner.1, ?_⟩
        intro hopen
        have hclosed : closed = false := by
          simpa using hinner.2 hopen
        exact (hnested.2.1 hclosed).1
      · exact hrest hnested.2.2 hbehind
  | leaf item rest hleaf ih =>
      rw [wellNested_leaf hleaf] at hnested
      rw [macroDefinitions_leaf hleaf] at hmem
      exact ih hnested.2 hmem

theorem WellNested.isNested {tree : List (Spanned Node)}
    (hnested : WellNested true true tree) : IsNested tree := by
  constructor
  · intro heading contents terminated span hmem
    exact (hnested.of_mem_macroDefinitions hmem).1.ne_macroEnd
  · intro level hlevel before heading contents span after heq
    subst heq
    rcases hlevel with htree | ⟨outer, terminated, region, hmem⟩
    · rw [← htree] at hnested
      exact hnested.unterminated_last
    · exact (hnested.of_mem_macroDefinitions hmem).1.unterminated_last
  · intro outer contents terminated span inner body region houter hinner
    have hcontents := (hnested.of_mem_macroDefinitions houter).1
    have hopen := (hcontents.of_mem_macroDefinitions hinner).2 rfl
    simpa using hopen

/-- A part of a tree is nested when no open definition stands in front of anything
in its own list. -/
theorem IsNested.part {tree part : List (Spanned Node)} (hnested : IsNested tree)
    (hmem : ∀ item ∈ macroDefinitions part, item ∈ macroDefinitions tree)
    (hlast : ∀ before heading contents span after,
      part = before ++ ⟨.macroDefinition heading contents false, span⟩ :: after →
        after = []) :
    IsNested part := by
  constructor
  · intro heading contents terminated span hinner
    exact hnested.stray_outside heading contents terminated span (hmem _ hinner)
  · intro level hlevel
    rcases hlevel with rfl | ⟨heading, terminated, span, hinner⟩
    · exact hlast
    · apply hnested.unterminated_last level
      exact Or.inr ⟨heading, terminated, span, hmem _ hinner⟩
  · intro outer contents terminated span inner body region houter
    exact hnested.unterminated_around outer contents terminated span inner body region
      (hmem _ houter)

theorem IsNested.inside {heading : MacroHeading} {contents rest : List (Spanned Node)}
    {terminated : Bool} {span : Span}
    (hnested : IsNested (⟨.macroDefinition heading contents terminated, span⟩ :: rest)) :
    IsNested contents := by
  apply hnested.part
  · intro item hitem
    simp only [macroDefinitions, List.mem_cons, List.mem_append]
    exact Or.inr (Or.inl hitem)
  · apply hnested.unterminated_last contents
    exact Or.inr ⟨heading, terminated, span, by simp [macroDefinitions]⟩

theorem IsNested.behind {item : Spanned Node} {rest : List (Spanned Node)}
    (hnested : IsNested (item :: rest)) : IsNested rest := by
  apply hnested.part
  · intro other hother
    by_cases hleaf : item.kind = .macroDefinition
    · obtain ⟨node, span⟩ := item
      cases node <;> simp [Spanned.kind, Node.kind] at hleaf
      simp only [macroDefinitions, List.mem_cons, List.mem_append]
      exact Or.inr (Or.inr hother)
    · rw [macroDefinitions_leaf hleaf]
      exact hother
  · intro before heading contents span after heq
    apply hnested.unterminated_last (item :: rest) (Or.inl rfl) (item :: before) heading
      contents span after
    rw [heq, List.cons_append]

theorem IsNested.wellNested {strays unfinished : Bool} {tree : List (Spanned Node)}
    (hnested : IsNested tree)
    (hstrays : strays = false → ∀ item ∈ tree, item.kind ≠ .macroEnd)
    (hclosed : unfinished = false → ∀ heading contents terminated span,
      ⟨.macroDefinition heading contents terminated, span⟩ ∈ macroDefinitions tree →
        terminated = true) :
    WellNested strays unfinished tree := by
  induction tree using treeInduction generalizing strays unfinished with
  | nil => simp [WellNested]
  | definition heading contents terminated span rest hcontents hrest =>
      have hhere : (⟨.macroDefinition heading contents terminated, span⟩ : Spanned Node) ∈
          macroDefinitions
            (⟨.macroDefinition heading contents terminated, span⟩ :: rest) := by
        simp [macroDefinitions]
      simp only [WellNested]
      refine ⟨?_, ?_, ?_⟩
      · apply hcontents hnested.inside
        · intro _
          exact hnested.stray_outside heading contents terminated span hhere
        · intro hterminated inner body closed region hinner
          -- An open definition inside would make this one open.
          by_contra hopen
          have hfalse : closed = false := by simpa using hopen
          subst hfalse
          have haround := hnested.unterminated_around heading contents terminated span inner
            body region hhere hinner
          simp [haround] at hterminated
      · intro hopen
        subst hopen
        constructor
        · by_contra hunfinished
          have hterminated := hclosed (by simpa using hunfinished) heading contents false
            span hhere
          exact absurd hterminated (by decide)
        · exact hnested.unterminated_last _ (Or.inl rfl) [] heading contents span rest rfl
      · apply hrest hnested.behind
        · intro hnone item hmem
          exact hstrays hnone item (List.mem_cons_of_mem _ hmem)
        · intro hnone inner body closed region hmem
          apply hclosed hnone inner body closed region
          simp only [macroDefinitions, List.mem_cons, List.mem_append]
          exact Or.inr (Or.inr hmem)
  | leaf item rest hleaf ih =>
      rw [wellNested_leaf hleaf]
      constructor
      · intro hend
        by_contra hnone
        exact hstrays (by simpa using hnone) item List.mem_cons_self hend
      · apply ih hnested.behind
        · intro hnone other hmem
          exact hstrays hnone other (List.mem_cons_of_mem _ hmem)
        · intro hnone inner body closed region hmem
          apply hclosed hnone inner body closed region
          rw [macroDefinitions_leaf hleaf]
          exact hmem

end SasOutline
