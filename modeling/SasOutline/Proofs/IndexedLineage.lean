import SasOutline.LineageGraph
import Mathlib.Tactic

/-!
# Lineage by places

A lineage graph can be stored so that nothing has to be searched for: the nodes in a row, the
edges as pairs of places in that row, and a table from identifiers to places.  Three views of
one graph have to be kept in step then.  A dataset is registered in the table and in the row
at once, and an edge connects two places that the table gave out.

Adding a statement keeps the views in step, and what is stored is the lineage graph that the
same statement makes of the graph stored before.
-/

namespace SasOutline

/-- An edge between two places of a row of nodes. -/
structure IndexedEdge where
  source : Nat
  target : Nat
  label : Option String
  deriving DecidableEq, Repr

structure IndexedLineage where
  row : List LineageNode
  links : List IndexedEdge
  places : Std.HashMap String Nat
  defects : List LineageDefect

namespace IndexedLineage

def empty : IndexedLineage := ⟨[], [], ∅, []⟩

/-- The node gets the place behind all others, and the table learns of it. -/
def enter (stored : IndexedLineage) (node : LineageNode) : IndexedLineage :=
  { stored with
    row := stored.row ++ [node]
    places := stored.places.insert node.id stored.row.length }

/-- The place of a dataset, which is entered when it has none yet. -/
def register (stored : IndexedLineage) (object : DatasetReference) (line : Nat) :
    IndexedLineage × Nat :=
  match stored.places[object.identifier]? with
  | some place => (stored, place)
  | none => (stored.enter (.ofReference object line), stored.row.length)

def connect (stored : IndexedLineage) (link : IndexedEdge) : IndexedLineage :=
  if link ∈ stored.links then stored
  else { stored with links := stored.links ++ [link] }

def addPair (stored : IndexedLineage) (line : Nat) (label : Option String)
    (input output : DatasetReference) : IndexedLineage :=
  let (first, source) := stored.register input line
  let (second, target) := first.register output line
  if source = target then second else second.connect ⟨source, target, label⟩

def addStatement (stored : IndexedLineage) (statement : LineageStatement) : IndexedLineage :=
  match statement.defect? with
  | some reason =>
      { stored with
        defects := stored.defects ++ [⟨statement.line, statement.kind, reason⟩] }
  | none =>
      statement.inputs.foldl
        (fun stored input =>
          statement.outputs.foldl
            (fun stored output => stored.addPair statement.line statement.label input output)
            stored)
        stored

def addNodes (stored : IndexedLineage) (nodes : List (Spanned Node)) : IndexedLineage :=
  ((objects nodes).filterMap LineageStatement.ofItem?).foldl addStatement stored

/-- The edge between the identifiers at the two places. -/
def edge? (row : List LineageNode) (link : IndexedEdge) : Option LineageEdge := do
  let source ← row[link.source]?
  let target ← row[link.target]?
  return ⟨source.id, target.id, link.label⟩

/-- The lineage graph that is stored. -/
def graph (stored : IndexedLineage) : LineageGraph :=
  ⟨stored.row, stored.links.filterMap (edge? stored.row), stored.defects⟩

/-- The table, the row and the edges fit together: the table knows the place of each node and
no other places, and every edge joins two different places of the row, once with each label. -/
structure InStep (stored : IndexedLineage) : Prop where
  place_iff : ∀ id place, stored.places[id]? = some place ↔
    stored.row[place]?.map LineageNode.id = some id
  ends_within : ∀ link ∈ stored.links,
    link.source < stored.row.length ∧ link.target < stored.row.length
  ends_apart : ∀ link ∈ stored.links, link.source ≠ link.target
  links_nodup : stored.links.Nodup

theorem inStep_empty : empty.InStep := by
  constructor <;> simp [empty]

/-! ## Places and identifiers -/

namespace InStep

variable {stored : IndexedLineage}

theorem exists_node (h : stored.InStep) {id : String} {place : Nat}
    (hplace : stored.places[id]? = some place) :
    ∃ node, stored.row[place]? = some node ∧ node.id = id :=
  Option.map_eq_some_iff.mp ((h.place_iff id place).mp hplace)

theorem place_of_node (h : stored.InStep) {place : Nat} {node : LineageNode}
    (hnode : stored.row[place]? = some node) : stored.places[node.id]? = some place :=
  (h.place_iff node.id place).mpr (by rw [hnode, Option.map_some])

theorem place_lt (h : stored.InStep) {id : String} {place : Nat}
    (hplace : stored.places[id]? = some place) : place < stored.row.length := by
  obtain ⟨node, hnode, -⟩ := h.exists_node hplace
  exact (List.getElem?_eq_some_iff.mp hnode).1

theorem place_unique (h : stored.InStep) {id other : String} {place : Nat}
    (hplace : stored.places[id]? = some place) (hother : stored.places[other]? = some place) :
    id = other := by
  obtain ⟨node, hnode, hid⟩ := h.exists_node hplace
  obtain ⟨node', hnode', hid'⟩ := h.exists_node hother
  rw [hnode, Option.some.injEq] at hnode'
  rw [← hid, ← hid', hnode']

/-- A dataset has no place exactly when no node of the row has its identifier. -/
theorem place_eq_none_iff (h : stored.InStep) {id : String} :
    stored.places[id]? = none ↔ ∀ node ∈ stored.row, node.id ≠ id := by
  constructor
  · rintro hnone node hnode rfl
    obtain ⟨place, hplace⟩ := List.mem_iff_getElem?.mp hnode
    rw [h.place_of_node hplace] at hnone
    contradiction
  · intro hnone
    cases hplace : stored.places[id]? with
    | none => rfl
    | some place =>
        obtain ⟨node, hnode, hid⟩ := h.exists_node hplace
        exact absurd hid (hnone node (List.mem_of_getElem? hnode))

theorem edge?_eq_some_iff (h : stored.InStep) {link : IndexedEdge} {edge : LineageEdge} :
    edge? stored.row link = some edge ↔
      stored.places[edge.source]? = some link.source ∧
        stored.places[edge.target]? = some link.target ∧ edge.label = link.label := by
  rw [h.place_iff, h.place_iff]
  unfold edge?
  obtain ⟨source, target, label⟩ := edge
  cases stored.row[link.source]? with
  | none => simp
  | some first =>
      cases stored.row[link.target]? with
      | none => simp
      | some second => simp [eq_comm]

theorem mem_edges_iff (h : stored.InStep) {edge : LineageEdge} :
    edge ∈ stored.graph.edges ↔ ∃ source target,
      stored.places[edge.source]? = some source ∧ stored.places[edge.target]? = some target ∧
        ⟨source, target, edge.label⟩ ∈ stored.links := by
  unfold graph
  rw [List.mem_filterMap]
  constructor
  · rintro ⟨link, hlink, hedge⟩
    obtain ⟨hsource, htarget, hlabel⟩ := h.edge?_eq_some_iff.mp hedge
    exact ⟨link.source, link.target, hsource, htarget, by rwa [hlabel]⟩
  · rintro ⟨source, target, hsource, htarget, hlink⟩
    exact ⟨_, hlink, h.edge?_eq_some_iff.mpr ⟨hsource, htarget, rfl⟩⟩

end InStep

/-! ## Registering a dataset -/

/-- Further nodes behind a row change no edge within it. -/
theorem edge?_append {row : List LineageNode} {link : IndexedEdge}
    (hwithin : link.source < row.length ∧ link.target < row.length) (more : List LineageNode) :
    edge? (row ++ more) link = edge? row link := by
  unfold edge?
  rw [List.getElem?_append_left hwithin.1, List.getElem?_append_left hwithin.2]

section Enter

variable {stored : IndexedLineage} {node : LineageNode}

theorem graph_enter (h : stored.InStep) (hnew : ∀ known ∈ stored.row, known.id ≠ node.id) :
    (stored.enter node).graph = stored.graph.addNode node := by
  have hunknown : ¬stored.row.any (fun known => known.id == node.id) = true := by
    simpa using hnew
  have hedges : stored.links.filterMap (edge? (stored.row ++ [node])) =
      stored.links.filterMap (edge? stored.row) := by
    apply List.filterMap_congr
    intro link hlink
    exact edge?_append (h.ends_within link hlink) _
  unfold LineageGraph.addNode graph enter
  rw [if_neg hunknown, hedges]

/-- The table knows one place more, that of the new node. -/
theorem places_enter_iff (h : stored.InStep)
    (hnew : ∀ known ∈ stored.row, known.id ≠ node.id) {id : String} {place : Nat} :
    (stored.enter node).places[id]? = some place ↔
      stored.places[id]? = some place ∨ (node.id = id ∧ place = stored.row.length) := by
  unfold enter
  simp only [Std.HashMap.getElem?_insert, beq_iff_eq]
  by_cases hsame : node.id = id
  · have hnone : stored.places[id]? = none := by
      rw [← hsame]
      exact h.place_eq_none_iff.mpr hnew
    simp [hsame, hnone, eq_comm]
  · simp [hsame]

/-- In the row, too, only the new node is added. -/
theorem row_enter_iff {id : String} {place : Nat} :
    (stored.enter node).row[place]?.map LineageNode.id = some id ↔
      stored.row[place]?.map LineageNode.id = some id ∨
        (node.id = id ∧ place = stored.row.length) := by
  unfold enter
  by_cases hwithin : place < stored.row.length
  · have hbefore : place ≠ stored.row.length := by omega
    rw [List.getElem?_append_left hwithin]
    simp [hbefore]
  · have hnone : stored.row[place]? = none := List.getElem?_eq_none (by omega)
    by_cases hlast : place = stored.row.length
    · simp [hlast]
    · have hbeyond : (stored.row ++ [node])[place]? = none := by
        apply List.getElem?_eq_none
        simp only [List.length_append, List.length_singleton]
        omega
      simp [hnone, hbeyond, hlast]

theorem inStep_enter (h : stored.InStep) (hnew : ∀ known ∈ stored.row, known.id ≠ node.id) :
    (stored.enter node).InStep := by
  constructor
  · intro id place
    rw [places_enter_iff h hnew, row_enter_iff, h.place_iff]
  · intro link hlink
    have hwithin := h.ends_within link hlink
    unfold enter
    simp only [List.length_append, List.length_singleton]
    omega
  · exact h.ends_apart
  · exact h.links_nodup

end Enter

/-- What registering a dataset does to a stored graph: the place that comes back is its
place, and places that were given out before stay. -/
structure Registers (stored : IndexedLineage) (object : DatasetReference) (line : Nat)
    (later : IndexedLineage) (place : Nat) : Prop where
  inStep : later.InStep
  graph_eq : later.graph = stored.graph.addNode (.ofReference object line)
  place_eq : later.places[object.identifier]? = some place
  kept : ∀ (id : String) (held : Nat), stored.places[id]? = some held →
    later.places[id]? = some held

theorem registers {stored : IndexedLineage} (h : stored.InStep) (object : DatasetReference)
    (line : Nat) :
    Registers stored object line (stored.register object line).1
      (stored.register object line).2 := by
  unfold register
  cases hplace : stored.places[object.identifier]? with
  | some place =>
      obtain ⟨node, hnode, hid⟩ := h.exists_node hplace
      have hknown : stored.row.any (fun node => node.id == object.identifier) = true := by
        rw [List.any_eq_true]
        exact ⟨node, List.mem_of_getElem? hnode, by simpa using hid⟩
      constructor
      · exact h
      · unfold LineageGraph.addNode
        exact (if_pos hknown).symm
      · exact hplace
      · intro id held hheld
        exact hheld
  | none =>
      have hnew : ∀ node ∈ stored.row, node.id ≠ object.identifier :=
        h.place_eq_none_iff.mp hplace
      constructor
      · exact inStep_enter h hnew
      · exact graph_enter h hnew
      · exact (places_enter_iff h hnew).mpr (Or.inr ⟨rfl, rfl⟩)
      · intro id held hheld
        exact (places_enter_iff h hnew).mpr (Or.inl hheld)

/-! ## Adding pairs and statements -/

/-- The stored views are in step, and together they are the graph. -/
structure Stores (stored : IndexedLineage) (graph : LineageGraph) : Prop where
  inStep : stored.InStep
  graph_eq : stored.graph = graph

theorem connect_stores {stored : IndexedLineage} (h : stored.InStep) (edge : LineageEdge)
    {source target : Nat} (hsource : stored.places[edge.source]? = some source)
    (htarget : stored.places[edge.target]? = some target) :
    Stores (if source = target then stored else stored.connect ⟨source, target, edge.label⟩)
      (stored.graph.addEdge edge) := by
  have hends : edge.source = edge.target ↔ source = target := by
    constructor
    · intro hsame
      rw [hsame, htarget] at hsource
      exact (Option.some.inj hsource).symm
    · rintro rfl
      exact h.place_unique hsource htarget
  have hknown : edge ∈ stored.graph.edges ↔ ⟨source, target, edge.label⟩ ∈ stored.links := by
    rw [h.mem_edges_iff]
    constructor
    · rintro ⟨first, second, hfirst, hsecond, hlink⟩
      rw [hsource, Option.some.injEq] at hfirst
      rw [htarget, Option.some.injEq] at hsecond
      rwa [hfirst, hsecond]
    · intro hlink
      exact ⟨source, target, hsource, htarget, hlink⟩
  unfold LineageGraph.addEdge
  by_cases hself : source = target
  · rw [if_pos hself, if_pos (Or.inl (hends.mpr hself))]
    exact ⟨h, rfl⟩
  rw [if_neg hself]
  unfold connect
  by_cases hlink : (⟨source, target, edge.label⟩ : IndexedEdge) ∈ stored.links
  · rw [if_pos hlink, if_pos (Or.inr (hknown.mpr hlink))]
    exact ⟨h, rfl⟩
  · have hadded : ¬(edge.source = edge.target ∨ edge ∈ stored.graph.edges) := by
      rintro (hsame | hmem)
      · exact hself (hends.mp hsame)
      · exact hlink (hknown.mp hmem)
    have hedge : edge? stored.row ⟨source, target, edge.label⟩ = some edge :=
      h.edge?_eq_some_iff.mpr ⟨hsource, htarget, rfl⟩
    rw [if_neg hlink, if_neg hadded]
    constructor
    · constructor
      · exact h.place_iff
      · intro link hmem
        rcases List.mem_append.mp hmem with hold | hnew
        · exact h.ends_within link hold
        · rw [List.mem_singleton.mp hnew]
          exact ⟨h.place_lt hsource, h.place_lt htarget⟩
      · intro link hmem
        rcases List.mem_append.mp hmem with hold | hnew
        · exact h.ends_apart link hold
        · rw [List.mem_singleton.mp hnew]
          exact hself
      · exact h.links_nodup.append (List.nodup_singleton _)
          (List.disjoint_singleton.mpr hlink)
    · simp [graph, hedge]

namespace Stores

variable {stored : IndexedLineage} {graph : LineageGraph}

theorem addPair (h : stored.Stores graph) (line : Nat) (label : Option String)
    (input output : DatasetReference) :
    (stored.addPair line label input output).Stores
      (graph.addPair line label (input, output)) := by
  have hfirst := registers h.inStep input line
  have hsecond := registers hfirst.inStep output line
  have hsource := hsecond.kept _ _ hfirst.place_eq
  have hstores := connect_stores hsecond.inStep ⟨input.identifier, output.identifier, label⟩
    hsource hsecond.place_eq
  rw [hsecond.graph_eq, hfirst.graph_eq, h.graph_eq] at hstores
  exact hstores

theorem addOutputs (h : stored.Stores graph) (line : Nat) (label : Option String)
    (input : DatasetReference) (outputs : List DatasetReference) :
    Stores
      (outputs.foldl (fun stored output => stored.addPair line label input output) stored)
      (outputs.foldl (fun graph output => graph.addPair line label (input, output)) graph) := by
  induction outputs generalizing stored graph with
  | nil => exact h
  | cons output outputs ih =>
      rw [List.foldl_cons, List.foldl_cons]
      exact ih (h.addPair line label input output)

theorem addStatement (h : stored.Stores graph) (statement : LineageStatement) :
    (stored.addStatement statement).Stores (graph.addStatement statement) := by
  unfold IndexedLineage.addStatement LineageGraph.addStatement
  cases statement.defect? with
  | some reason =>
      constructor
      · exact ⟨h.inStep.place_iff, h.inStep.ends_within, h.inStep.ends_apart,
          h.inStep.links_nodup⟩
      · rw [← h.graph_eq]
        rfl
  | none =>
      unfold LineageStatement.pairs
      simp only [List.foldl_flatMap, List.foldl_map]
      induction statement.inputs generalizing stored graph with
      | nil => exact h
      | cons input inputs ih =>
          rw [List.foldl_cons, List.foldl_cons]
          exact ih (h.addOutputs statement.line statement.label input statement.outputs)

theorem addNodes (h : stored.Stores graph) (nodes : List (Spanned Node)) :
    (stored.addNodes nodes).Stores (graph.addNodes nodes) := by
  unfold IndexedLineage.addNodes LineageGraph.addNodes
  induction (SasOutline.objects nodes).filterMap LineageStatement.ofItem?
    generalizing stored graph with
  | nil => exact h
  | cons statement statements ih => exact ih (h.addStatement statement)

end Stores

/-- Whatever programs are added, what is stored is their lineage graph. -/
theorem stores_foldl_addNodes (programs : List (List (Spanned Node))) :
    (programs.foldl addNodes empty).Stores (programs.foldl LineageGraph.addNodes .empty) := by
  have hstart : Stores empty .empty := ⟨inStep_empty, rfl⟩
  generalize empty = stored at hstart ⊢
  generalize LineageGraph.empty = graph at hstart ⊢
  induction programs generalizing stored graph with
  | nil => exact hstart
  | cons nodes programs ih => exact ih _ _ (hstart.addNodes nodes)

end IndexedLineage

end SasOutline
