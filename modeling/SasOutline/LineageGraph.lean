import SasOutline.NodeTree

/-!
# Dataset lineage

Every data step and every procedure reads some datasets and writes others.  Each
pair of an input and an output becomes an edge, labelled with the procedure or
without a label for a data step.  Nodes and edges are added where they are
missing, so both are listed in the order of the pairs that first hold them.

A statement with a reference that names no dataset adds nothing but a defect.
Statements that only read or only write have no pairs and leave no trace, not
even a node for the datasets they mention.
-/

namespace SasOutline

/-- `line` is where the first statement that connects the dataset starts.  Such a
statement has inputs and outputs, and the dataset is one of them. -/
structure LineageNode where
  id : String
  library : String
  dataset : String
  line : Nat
  deriving DecidableEq, Repr

structure LineageEdge where
  source : String
  target : String
  label : Option String
  deriving DecidableEq, Repr

/-- A statement left out of the graph. -/
structure LineageDefect where
  line : Nat
  kind : NodeKind
  reason : ReferenceDefect
  deriving DecidableEq, Repr

def LineageDefect.message (defect : LineageDefect) : String :=
  "line " ++ toString defect.line ++ ": " ++ defect.kind.name ++ " skipped, " ++
    defect.reason.message

structure LineageGraph where
  nodes : List LineageNode
  edges : List LineageEdge
  defects : List LineageDefect
  deriving DecidableEq, Repr

/-- What a statement contributes to the lineage of its datasets. -/
structure LineageStatement where
  line : Nat
  kind : NodeKind
  inputs : List DatasetReference
  outputs : List DatasetReference
  label : Option String
  deriving DecidableEq, Repr

namespace LineageStatement

def ofItem? (item : Spanned Node) : Option LineageStatement :=
  match item.node with
  | .dataStep step =>
      some ⟨item.span.start.line, item.kind, step.inputs, step.outputs, none⟩
  | .procedure procedure =>
      some ⟨item.span.start.line, item.kind, procedure.inputs, procedure.outputs,
        some procedure.label⟩
  | _ => none

/-- The first reference that names no dataset, inputs before outputs. -/
def defect? (statement : LineageStatement) : Option ReferenceDefect :=
  (statement.inputs ++ statement.outputs).findSome? DatasetReference.defect?

/-- Every input with every output, inputs outermost. -/
def pairs (statement : LineageStatement) : List (DatasetReference × DatasetReference) :=
  statement.inputs.flatMap fun input => statement.outputs.map fun output => (input, output)

end LineageStatement

def LineageNode.ofReference (object : DatasetReference) (line : Nat) : LineageNode :=
  ⟨object.identifier, object.libraryName, object.datasetName, line⟩

namespace LineageGraph

def empty : LineageGraph := ⟨[], [], []⟩

instance : Inhabited LineageGraph := ⟨empty⟩

def addNode (graph : LineageGraph) (node : LineageNode) : LineageGraph :=
  if graph.nodes.any (·.id == node.id) then graph
  else { graph with nodes := graph.nodes ++ [node] }

/-- An edge from a dataset to itself is left out. -/
def addEdge (graph : LineageGraph) (edge : LineageEdge) : LineageGraph :=
  if edge.source = edge.target ∨ edge ∈ graph.edges then graph
  else { graph with edges := graph.edges ++ [edge] }

def addPair (graph : LineageGraph) (line : Nat) (label : Option String)
    (pair : DatasetReference × DatasetReference) : LineageGraph :=
  ((graph.addNode (.ofReference pair.1 line)).addNode (.ofReference pair.2 line)).addEdge
    ⟨pair.1.identifier, pair.2.identifier, label⟩

def addStatement (graph : LineageGraph) (statement : LineageStatement) : LineageGraph :=
  match statement.defect? with
  | some reason =>
      { graph with
        defects := graph.defects ++ [⟨statement.line, statement.kind, reason⟩] }
  | none =>
      statement.pairs.foldl (fun graph => graph.addPair statement.line statement.label) graph

/-- Add the data steps and procedures of a program, inside macro definitions as
well. -/
def addNodes (graph : LineageGraph) (nodes : List (Spanned Node)) : LineageGraph :=
  ((objects nodes).filterMap LineageStatement.ofItem?).foldl addStatement graph

def ofNodes (nodes : List (Spanned Node)) : LineageGraph :=
  empty.addNodes nodes

/-- The node of a dataset, whatever the case its identifier is written in. -/
def node? (graph : LineageGraph) (id : String) : Option LineageNode :=
  let key := upperCase id
  graph.nodes.find? (·.id == key)

def contains (graph : LineageGraph) (id : String) : Bool :=
  (graph.node? id).isSome

def isEmpty (graph : LineageGraph) : Bool := graph.nodes.isEmpty

/-- The datasets read directly to produce a dataset. -/
def directSources (graph : LineageGraph) (id : String) : List LineageNode :=
  let key := upperCase id
  graph.nodes.filter fun node =>
    graph.edges.any fun edge => edge.target == key && edge.source == node.id

/-- The datasets produced directly from a dataset. -/
def directTargets (graph : LineageGraph) (id : String) : List LineageNode :=
  let key := upperCase id
  graph.nodes.filter fun node =>
    graph.edges.any fun edge => edge.source == key && edge.target == node.id

end LineageGraph

end SasOutline
