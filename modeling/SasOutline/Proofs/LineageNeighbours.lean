import SasOutline.ProgramReport
import SasOutline.Proofs.IndexedLineage
import SasOutline.Proofs.JsonFields
import SasOutline.Proofs.LineageReference
import Mathlib.Data.List.Destutter

/-!
# Questions to a lineage graph

A stored lineage graph answers through its table: an identifier is looked up in upper case,
and the neighbours of its place are reported once for every edge there, in any order.  Sorted,
without repetitions and read off the row, they are the nodes that the lineage graph itself
lists as direct sources or targets.

What the graph lists stands in the order of its nodes, and seen from the other end of an edge
the answer is the same.  In the exported graph every end of a link is a node, and only one.
-/

namespace SasOutline

/-- The edges of a dataset that lead to it, or those that lead away from it. -/
inductive Direction where
  | incoming
  | outgoing
  deriving DecidableEq, Repr

def Direction.opposite : Direction → Direction
  | incoming => outgoing
  | outgoing => incoming

/-- The end at which an edge meets the datasets that have it in this direction. -/
def LineageEdge.near (edge : LineageEdge) : Direction → String
  | .incoming => edge.target
  | .outgoing => edge.source

def LineageEdge.far (edge : LineageEdge) (direction : Direction) : String :=
  edge.near direction.opposite

def IndexedEdge.near (link : IndexedEdge) : Direction → Nat
  | .incoming => link.target
  | .outgoing => link.source

def IndexedEdge.far (link : IndexedEdge) (direction : Direction) : Nat :=
  link.near direction.opposite

/-- The fields for the two ends hold what the edge has there, with or without a label. -/
theorem LineageEdge.field?_toJson (edge : LineageEdge) {name : String}
    (hname : name ∈ ["source", "target"]) :
    ∃ direction, edge.toJson.field? name = some (.string (edge.near direction)) := by
  obtain ⟨source, target, label⟩ := edge
  simp only [List.mem_cons, List.not_mem_nil, or_false] at hname
  rcases hname with rfl | rfl
  · refine ⟨.outgoing, ?_⟩
    cases label <;> rw [toJson, Json.field?_object] <;> rfl
  · refine ⟨.incoming, ?_⟩
    cases label <;> rw [toJson, Json.field?_object] <;> rfl

/-! ## What a graph answers -/

namespace LineageGraph

def neighbours (graph : LineageGraph) : Direction → String → List LineageNode
  | .incoming => graph.directSources
  | .outgoing => graph.directTargets

/-- The questions of a graph are answered from its nodes and edges alone, each identifier
meaning the node that carries it in upper case. -/
structure AnswersQueries (graph : LineageGraph) : Prop where
  ids_nodup : (graph.nodes.map LineageNode.id).Nodup
  contains_iff : ∀ id, graph.contains id = true ↔ ∃ node ∈ graph.nodes, node.id = upperCase id
  node_iff : ∀ id node,
    graph.node? id = some node ↔ node ∈ graph.nodes ∧ node.id = upperCase id
  neighbours_sublist : ∀ direction id, (graph.neighbours direction id).Sublist graph.nodes
  neighbours_nodup : ∀ direction id, (graph.neighbours direction id).Nodup
  mem_neighbours : ∀ direction id node,
    node ∈ graph.neighbours direction id ↔ node ∈ graph.nodes ∧
      ∃ edge ∈ graph.edges, edge.near direction = upperCase id ∧ edge.far direction = node.id
  unknown : ∀ direction id, graph.contains id = false → graph.neighbours direction id = []
  dual : ∀ direction first second,
    (∃ node, graph.node? second = some node ∧ node ∈ graph.neighbours direction first) ↔
      ∃ node, graph.node? first = some node ∧
        node ∈ graph.neighbours direction.opposite second
  not_own : ∀ direction id node,
    graph.node? id = some node → node ∉ graph.neighbours direction id

/-- Both ends of every exported link are the identifier of one exported node, and of no
other. -/
def ExportsEnds (graph : LineageGraph) : Prop :=
  ∃ nodes links,
    graph.toJson.field? "nodes" = some (.array nodes) ∧
      graph.toJson.field? "links" = some (.array links) ∧
        ∀ link ∈ links, ∀ name ∈ ["source", "target"],
          ∃ id, link.field? name = some (.string id) ∧
            ∃! place : Nat, nodes[place]?.bind (Json.field? "id") = some (.string id)

/-- Each node has its own identifier, and an edge joins two different nodes. -/
structure Joined (graph : LineageGraph) : Prop where
  ids_nodup : (graph.nodes.map LineageNode.id).Nodup
  near_mem : ∀ edge ∈ graph.edges, ∀ direction, ∃ node ∈ graph.nodes,
    node.id = edge.near direction
  ends_apart : ∀ edge ∈ graph.edges, edge.source ≠ edge.target

variable {graph : LineageGraph}

theorem neighbours_eq_filter (direction : Direction) (id : String) :
    graph.neighbours direction id = graph.nodes.filter fun node =>
      graph.edges.any fun edge =>
        edge.near direction == upperCase id && edge.far direction == node.id := by
  cases direction <;> rfl

theorem mem_neighbours_iff {direction : Direction} {id : String} {node : LineageNode} :
    node ∈ graph.neighbours direction id ↔ node ∈ graph.nodes ∧
      ∃ edge ∈ graph.edges, edge.near direction = upperCase id ∧ edge.far direction = node.id := by
  rw [neighbours_eq_filter, List.mem_filter]
  simp

theorem contains_iff_exists {id : String} :
    graph.contains id = true ↔ ∃ node ∈ graph.nodes, node.id = upperCase id := by
  unfold contains node?
  rw [List.find?_isSome]
  simp

namespace Joined

theorem eq_of_id_eq (h : graph.Joined) {first second : LineageNode}
    (hfirst : first ∈ graph.nodes) (hsecond : second ∈ graph.nodes)
    (hid : first.id = second.id) : first = second :=
  List.inj_on_of_nodup_map h.ids_nodup hfirst hsecond hid

theorem node?_eq_some_iff (h : graph.Joined) {id : String} {node : LineageNode} :
    graph.node? id = some node ↔ node ∈ graph.nodes ∧ node.id = upperCase id := by
  unfold node?
  constructor
  · intro hfound
    exact ⟨List.mem_of_find?_eq_some hfound, by simpa using List.find?_some hfound⟩
  · rintro ⟨hmem, hid⟩
    cases hfound : graph.nodes.find? (·.id == upperCase id) with
    | none =>
        have hnone := List.find?_eq_none.mp hfound node hmem
        simp [hid] at hnone
    | some found =>
        have hfoundId : found.id = upperCase id := by simpa using List.find?_some hfound
        rw [h.eq_of_id_eq (List.mem_of_find?_eq_some hfound) hmem (hfoundId.trans hid.symm)]

theorem far_mem (h : graph.Joined) {edge : LineageEdge} (hedge : edge ∈ graph.edges)
    (direction : Direction) : ∃ node ∈ graph.nodes, node.id = edge.far direction :=
  h.near_mem edge hedge direction.opposite

theorem near_ne_far (h : graph.Joined) {edge : LineageEdge} (hedge : edge ∈ graph.edges)
    (direction : Direction) : edge.near direction ≠ edge.far direction := by
  cases direction with
  | incoming => exact (h.ends_apart edge hedge).symm
  | outgoing => exact h.ends_apart edge hedge

/-- One dataset is a neighbour of another when an edge joins them. -/
theorem exists_neighbour_iff (h : graph.Joined) (direction : Direction) (first second : String) :
    (∃ node, graph.node? second = some node ∧ node ∈ graph.neighbours direction first) ↔
      ∃ edge ∈ graph.edges, edge.near direction = upperCase first ∧
        edge.far direction = upperCase second := by
  simp only [h.node?_eq_some_iff, mem_neighbours_iff]
  constructor
  · rintro ⟨node, ⟨-, hid⟩, -, edge, hedge, hnear, hfar⟩
    exact ⟨edge, hedge, hnear, hfar.trans hid⟩
  · rintro ⟨edge, hedge, hnear, hfar⟩
    obtain ⟨node, hnode, hid⟩ := h.far_mem hedge direction
    exact ⟨node, ⟨hnode, hid.trans hfar⟩, hnode, edge, hedge, hnear, hid.symm⟩

theorem answersQueries (h : graph.Joined) : graph.AnswersQueries where
  ids_nodup := h.ids_nodup
  contains_iff id := contains_iff_exists
  node_iff id node := h.node?_eq_some_iff
  neighbours_sublist direction id := by
    rw [neighbours_eq_filter]
    exact List.filter_sublist
  neighbours_nodup direction id := by
    rw [neighbours_eq_filter]
    exact h.ids_nodup.of_map.filter _
  mem_neighbours direction id node := mem_neighbours_iff
  unknown direction id hunknown := by
    rw [List.eq_nil_iff_forall_not_mem]
    intro node hnode
    obtain ⟨-, edge, hedge, hnear, -⟩ := mem_neighbours_iff.mp hnode
    obtain ⟨known, hknown, hid⟩ := h.near_mem edge hedge direction
    have hcontains := contains_iff_exists.mpr ⟨known, hknown, hid.trans hnear⟩
    rw [hunknown] at hcontains
    contradiction
  dual direction first second := by
    rw [h.exists_neighbour_iff, h.exists_neighbour_iff]
    cases direction <;> simp [LineageEdge.far, Direction.opposite, and_comm]
  not_own direction id node hnode := by
    intro hown
    obtain ⟨-, hid⟩ := h.node?_eq_some_iff.mp hnode
    obtain ⟨-, edge, hedge, hnear, hfar⟩ := mem_neighbours_iff.mp hown
    exact h.near_ne_far hedge direction (by rw [hnear, hfar, hid])

theorem existsUnique_place (h : graph.Joined) {node : LineageNode} (hnode : node ∈ graph.nodes) :
    ∃! place : Nat, (graph.nodes.map LineageNode.toJson)[place]?.bind (Json.field? "id") =
      some (.string node.id) := by
  have hid (node : LineageNode) : node.toJson.field? "id" = some (.string node.id) :=
    Json.field?_object_first _ (by simp)
  have hplace (place : Nat) :
      (graph.nodes.map LineageNode.toJson)[place]?.bind (Json.field? "id") =
          some (.string node.id) ↔
        (graph.nodes.map LineageNode.id)[place]? = some node.id := by
    rw [List.getElem?_map, List.getElem?_map]
    cases graph.nodes[place]? with
    | none => simp
    | some found => simp [hid]
  simp only [hplace]
  obtain ⟨place, hfound⟩ := List.mem_iff_getElem?.mp (List.mem_map_of_mem hnode)
  refine ⟨place, hfound, ?_⟩
  intro other hother
  have hlt : other < (graph.nodes.map LineageNode.id).length :=
    (List.getElem?_eq_some_iff.mp hother).1
  exact (List.getElem?_inj hlt h.ids_nodup).mp (hother.trans hfound.symm)

theorem exportsEnds (h : graph.Joined) : graph.ExportsEnds := by
  refine ⟨graph.nodes.map LineageNode.toJson, graph.edges.map LineageEdge.toJson, ?_, ?_, ?_⟩
  · rw [toJson, Json.field?_object]
    rfl
  · rw [toJson, Json.field?_object]
    rfl
  · intro link hlink name hname
    obtain ⟨edge, hedge, rfl⟩ := List.mem_map.mp hlink
    obtain ⟨direction, hfield⟩ := edge.field?_toJson hname
    obtain ⟨node, hnode, hid⟩ := h.near_mem edge hedge direction
    refine ⟨edge.near direction, hfield, ?_⟩
    rw [← hid]
    exact h.existsUnique_place hnode

end Joined

end LineageGraph

/-! ## Answers from the table -/

namespace IndexedLineage

def contains (stored : IndexedLineage) (id : String) : Bool :=
  stored.places.contains (upperCase id)

def node? (stored : IndexedLineage) (id : String) : Option LineageNode := do
  let place ← stored.places[upperCase id]?
  stored.row[place]?

/-- The places at the other ends of the edges that a place has in one direction, once for
each edge. -/
def incident (links : List IndexedEdge) (direction : Direction) (place : Nat) : List Nat :=
  (links.filter (·.near direction == place)).map (·.far direction)

/-- How neighbours are reported: one for each edge, in whatever order. -/
def ReportsIncident (report : List IndexedEdge → Direction → Nat → List Nat) : Prop :=
  ∀ links direction place, (report links direction place).Perm (incident links direction place)

/-- The neighbours of a dataset in the order of the row, each once.  There is no answer when a
reported place lies outside of the row. -/
def neighbours? (stored : IndexedLineage)
    (report : List IndexedEdge → Direction → Nat → List Nat) (direction : Direction)
    (id : String) : Option (List LineageNode) :=
  match stored.places[upperCase id]? with
  | none => some []
  | some place =>
      ((report stored.links direction place).mergeSort.destutter (· ≠ ·)).mapM
        (stored.row[·]?)

/-- Sorting and leaving out repetitions picks the reported places out of the row of all
places. -/
theorem destutter_mergeSort_eq_filter {reported : List Nat} {bound : Nat}
    (hbound : ∀ place ∈ reported, place < bound) :
    reported.mergeSort.destutter (· ≠ ·) = (List.range bound).filter (· ∈ reported) := by
  have hsorted : reported.mergeSort.Pairwise (· ≤ ·) := List.sortedLE_mergeSort.pairwise
  have hdistinct := hsorted.destutter_eq_dedup
  have hpick := (List.pairwise_lt_range (n := bound)).filter (· ∈ reported)
  have hstrict : (reported.mergeSort.destutter (· ≠ ·)).Pairwise (· < ·) := by
    rw [hdistinct]
    have hle := hsorted.sublist (List.dedup_sublist _)
    exact (hle.and (List.nodup_dedup _)).imp fun hboth => lt_of_le_of_ne hboth.1 hboth.2
  apply List.SortedLT.eq_of_mem_iff
  · exact hstrict.sortedLT
  · exact hpick.sortedLT
  · intro place
    rw [hdistinct, List.mem_dedup, (List.mergeSort_perm _ _).mem_iff, List.mem_filter,
      List.mem_range]
    constructor
    · intro hmem
      exact ⟨hbound place hmem, by simpa using hmem⟩
    · rintro ⟨-, hmem⟩
      simpa using hmem

/-- Reading a selection of places off a row selects the same nodes of it. -/
theorem mapM_filter_range' {keeps : Nat → Bool} {picks : LineageNode → Bool}
    (before row : List LineageNode)
    (hsame : ∀ place node, (before ++ row)[place]? = some node → keeps place = picks node) :
    ((List.range' before.length row.length).filter keeps).mapM ((before ++ row)[·]?) =
      some (row.filter picks) := by
  induction row generalizing before with
  | nil => simp
  | cons node row ih =>
      have hplace : (before ++ node :: row)[before.length]? = some node := by simp
      have hrest := ih (before ++ [node]) (by simpa using hsame)
      simp only [List.append_assoc, List.singleton_append, List.length_append,
        List.length_singleton] at hrest
      rw [List.length_cons, List.range'_succ, List.filter_cons, List.filter_cons,
        hsame _ _ hplace]
      by_cases hpicks : picks node = true
      · simp [hpicks, hrest]
      · simp [hpicks, hrest]

namespace InStep

variable {stored : IndexedLineage}

/-- Edges between two datasets are stored as edges between their places. -/
theorem exists_edge_iff (h : stored.InStep) (direction : Direction) {id other : String}
    {place place' : Nat} (hplace : stored.places[id]? = some place)
    (hother : stored.places[other]? = some place') :
    (∃ edge ∈ stored.graph.edges, edge.near direction = id ∧ edge.far direction = other) ↔
      ∃ link ∈ stored.links, link.near direction = place ∧ link.far direction = place' := by
  constructor
  · rintro ⟨edge, hedge, rfl, rfl⟩
    obtain ⟨source, target, hsource, htarget, hlink⟩ := h.mem_edges_iff.mp hedge
    refine ⟨_, hlink, ?_⟩
    cases direction with
    | incoming =>
        exact ⟨Option.some.inj (htarget.symm.trans hplace),
          Option.some.inj (hsource.symm.trans hother)⟩
    | outgoing =>
        exact ⟨Option.some.inj (hsource.symm.trans hplace),
          Option.some.inj (htarget.symm.trans hother)⟩
  · rintro ⟨link, hlink, rfl, rfl⟩
    cases direction with
    | incoming =>
        exact ⟨⟨other, id, link.label⟩, h.mem_edges_iff.mpr ⟨_, _, hother, hplace, hlink⟩,
          rfl, rfl⟩
    | outgoing =>
        exact ⟨⟨id, other, link.label⟩, h.mem_edges_iff.mpr ⟨_, _, hplace, hother, hlink⟩,
          rfl, rfl⟩

/-- A table gives an identifier one place only, so no two nodes share one. -/
theorem ids_nodup (h : stored.InStep) : (stored.row.map LineageNode.id).Nodup := by
  rw [List.nodup_iff_getElem?_ne_getElem?]
  intro first second horder hlt hsame
  rw [List.getElem?_map, List.getElem?_map] at hsame
  have hwithin : first < stored.row.length := by
    simp only [List.length_map] at hlt
    omega
  have hfirst : stored.row[first]? = some stored.row[first] :=
    List.getElem?_eq_getElem hwithin
  have hplace := h.place_of_node hfirst
  have hother : stored.places[stored.row[first].id]? = some second := by
    rw [h.place_iff, ← hsame, hfirst, Option.map_some]
  rw [hplace, Option.some.injEq] at hother
  omega

theorem joined (h : stored.InStep) : stored.graph.Joined := by
  constructor
  · exact h.ids_nodup
  · intro edge hedge direction
    obtain ⟨source, target, hsource, htarget, -⟩ := h.mem_edges_iff.mp hedge
    have hnear : ∃ place, stored.places[edge.near direction]? = some place := by
      cases direction with
      | incoming => exact ⟨target, htarget⟩
      | outgoing => exact ⟨source, hsource⟩
    obtain ⟨place, hplace⟩ := hnear
    obtain ⟨node, hnode, hid⟩ := h.exists_node hplace
    exact ⟨node, List.mem_of_getElem? hnode, hid⟩
  · intro edge hedge hself
    obtain ⟨source, target, hsource, htarget, hlink⟩ := h.mem_edges_iff.mp hedge
    rw [hself, htarget, Option.some.injEq] at hsource
    exact h.ends_apart _ hlink hsource.symm

theorem contains_eq (h : stored.InStep) (id : String) :
    stored.contains id = stored.graph.contains id := by
  rw [Bool.eq_iff_iff, LineageGraph.contains_iff_exists]
  unfold contains
  rw [Std.HashMap.contains_eq_isSome_getElem?, Option.isSome_iff_exists]
  constructor
  · rintro ⟨place, hplace⟩
    obtain ⟨node, hnode, hid⟩ := h.exists_node hplace
    exact ⟨node, List.mem_of_getElem? hnode, hid⟩
  · rintro ⟨node, hmem, hid⟩
    obtain ⟨place, hnode⟩ := List.mem_iff_getElem?.mp hmem
    rw [← hid]
    exact ⟨place, h.place_of_node hnode⟩

theorem node?_eq (h : stored.InStep) (id : String) :
    stored.node? id = stored.graph.node? id := by
  unfold node?
  cases hplace : stored.places[upperCase id]? with
  | none =>
      have hnone : stored.graph.node? id = none := by
        rw [LineageGraph.node?, List.find?_eq_none]
        intro node hnode
        simpa using h.place_eq_none_iff.mp hplace node hnode
      rw [hnone]
      rfl
  | some place =>
      obtain ⟨node, hnode, hid⟩ := h.exists_node hplace
      have hfound := h.joined.node?_eq_some_iff.mpr ⟨List.mem_of_getElem? hnode, hid⟩
      rw [hfound]
      exact hnode

theorem mem_incident_iff {links : List IndexedEdge} {direction : Direction} {place other : Nat} :
    other ∈ incident links direction place ↔
      ∃ link ∈ links, link.near direction = place ∧ link.far direction = other := by
  simp [incident, and_assoc]

theorem lt_of_mem_incident (h : stored.InStep) {direction : Direction} {place other : Nat}
    (hmem : other ∈ incident stored.links direction place) : other < stored.row.length := by
  obtain ⟨link, hlink, -, rfl⟩ := mem_incident_iff.mp hmem
  cases direction with
  | incoming => exact (h.ends_within link hlink).1
  | outgoing => exact (h.ends_within link hlink).2

theorem neighbours?_eq (h : stored.InStep)
    {report : List IndexedEdge → Direction → Nat → List Nat} (hreport : ReportsIncident report)
    (direction : Direction) (id : String) :
    stored.neighbours? report direction id = some (stored.graph.neighbours direction id) := by
  unfold neighbours?
  cases hplace : stored.places[upperCase id]? with
  | none =>
      have hunknown : stored.graph.contains id = false := by
        rw [← h.contains_eq, contains, Std.HashMap.contains_eq_isSome_getElem?, hplace,
          Option.isSome_none]
      rw [h.joined.answersQueries.unknown direction id hunknown]
  | some place =>
      have hmem (other : Nat) : other ∈ report stored.links direction place ↔
          other ∈ incident stored.links direction place :=
        (hreport stored.links direction place).mem_iff
      have hbound : ∀ other ∈ report stored.links direction place, other < stored.row.length := by
        intro other hother
        exact h.lt_of_mem_incident ((hmem other).mp hother)
      dsimp only
      rw [destutter_mergeSort_eq_filter hbound, LineageGraph.neighbours_eq_filter,
        List.range_eq_range']
      refine mapM_filter_range' [] stored.row ?_
      intro other node hnode
      have hother := h.place_of_node hnode
      rw [Bool.eq_iff_iff, decide_eq_true_iff, hmem, mem_incident_iff,
        ← h.exists_edge_iff direction hplace hother]
      simp

end InStep

/-- What is stored is the graph, and it answers every question as the graph does. -/
structure AnswersAs (stored : IndexedLineage)
    (report : List IndexedEdge → Direction → Nat → List Nat) (graph : LineageGraph) : Prop where
  stores : stored.Stores graph
  contains_eq : ∀ id, stored.contains id = graph.contains id
  node_eq : ∀ id, stored.node? id = graph.node? id
  neighbours_eq : ∀ direction id,
    stored.neighbours? report direction id = some (graph.neighbours direction id)

theorem Stores.answersAs {stored : IndexedLineage} {graph : LineageGraph}
    (h : stored.Stores graph) {report : List IndexedEdge → Direction → Nat → List Nat}
    (hreport : ReportsIncident report) : stored.AnswersAs report graph := by
  obtain ⟨hstep, rfl⟩ := h
  exact ⟨⟨hstep, rfl⟩, hstep.contains_eq, hstep.node?_eq, hstep.neighbours?_eq hreport⟩

/-- Whatever programs are added to an empty graph, table, row and edges stay in step and give
the answers of the lineage graph; the answers agree with its nodes and edges, and its export
names no dataset that is not there. -/
theorem lineage_views_agree {report : List IndexedEdge → Direction → Nat → List Nat}
    (hreport : ReportsIncident report) (programs : List (List (Spanned Node))) :
    (programs.foldl addNodes empty).AnswersAs report
        (programs.foldl LineageGraph.addNodes .empty) ∧
      (programs.foldl LineageGraph.addNodes .empty).AnswersQueries ∧
        (programs.foldl LineageGraph.addNodes .empty).ExportsEnds := by
  have hstores := stores_foldl_addNodes programs
  have hjoined : (programs.foldl LineageGraph.addNodes .empty).Joined := by
    rw [← hstores.graph_eq]
    exact hstores.inStep.joined
  exact ⟨hstores.answersAs hreport, hjoined.answersQueries, hjoined.exportsEnds⟩

/-- Neighbours with the edge that was added last in front. -/
def lastFirst (links : List IndexedEdge) (direction : Direction) (place : Nat) : List Nat :=
  (incident links direction place).reverse

/-- Two programs that make one dataset from another, in a data step and by sorting. -/
def copiedAndSorted : List (List (Spanned Node)) :=
  [[⟨.dataStep ⟨[⟨none, .ofLiteral "b", none⟩], [⟨none, .ofLiteral "a", none⟩], "", "", none⟩,
      ⟨⟨1, 0⟩, ⟨2, 0⟩⟩⟩],
   [⟨.procedure ⟨"sort", [⟨none, .ofLiteral "a", none⟩], [⟨none, .ofLiteral "b", none⟩]⟩,
      ⟨⟨1, 0⟩, ⟨3, 0⟩⟩⟩]]

theorem lineage_views_agree_of_parallel_edges :
    ReportsIncident lastFirst ∧
      copiedAndSorted.foldl LineageGraph.addNodes .empty =
          ⟨[⟨"WORK.A", "work", "a", 1⟩, ⟨"WORK.B", "work", "b", 1⟩],
            [⟨"WORK.A", "WORK.B", none⟩, ⟨"WORK.A", "WORK.B", some "proc sort"⟩], []⟩ ∧
        (copiedAndSorted.foldl addNodes empty).neighbours? lastFirst .incoming "work.b" =
            some [⟨"WORK.A", "work", "a", 1⟩] ∧
          (copiedAndSorted.foldl LineageGraph.addNodes .empty).AnswersQueries ∧
            (copiedAndSorted.foldl LineageGraph.addNodes .empty).ExportsEnds := by
  have hreport : ReportsIncident lastFirst := by
    intro links direction place
    exact List.reverse_perm _
  have hgraph : copiedAndSorted.foldl LineageGraph.addNodes .empty =
      ⟨[⟨"WORK.A", "work", "a", 1⟩, ⟨"WORK.B", "work", "b", 1⟩],
        [⟨"WORK.A", "WORK.B", none⟩, ⟨"WORK.A", "WORK.B", some "proc sort"⟩], []⟩ := by
    rw [LineageGraph.foldl_addNodes_eq_reference]
    simp only [copiedAndSorted, List.flatMap_cons, List.flatMap_nil, documentStatements]
    decide +kernel
  obtain ⟨hanswers, hqueries, hends⟩ := lineage_views_agree hreport copiedAndSorted
  refine ⟨hreport, hgraph, ?_, hqueries, hends⟩
  rw [hanswers.neighbours_eq, hgraph]
  decide +kernel

end IndexedLineage

end SasOutline
