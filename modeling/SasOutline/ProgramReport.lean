import SasOutline.NodeExport
import SasOutline.Program

/-!
# Reports on a program

The JSON records that describe a program: its character counts, the number of
nodes of each kind, a short record for the summary, the whole tree, and the
lineage graph in node-link form.
-/

namespace SasOutline

namespace ScanCounts

def toJson (counts : ScanCounts) : Json :=
  .object
    [("total", .ofNat counts.total), ("matched", .ofNat counts.matched),
     ("skipped", .ofNat counts.skipped), ("matches", .ofNat counts.matchCount)]

end ScanCounts

def kindCountsJson (counts : List (NodeKind × Nat)) : Json :=
  .object (counts.map fun (kind, count) => (kind.name, .ofNat count))

namespace LineageNode

def toJson (node : LineageNode) : Json :=
  .object
    [("id", .string node.id), ("library", .string node.library),
     ("dataset", .string node.dataset), ("line", .ofNat node.line)]

end LineageNode

namespace LineageEdge

/-- An edge without a label has no field for it. -/
def toJson (edge : LineageEdge) : Json :=
  let ends := [("source", Json.string edge.source), ("target", Json.string edge.target)]
  match edge.label with
  | some label => .object (("label", .string label) :: ends)
  | none => .object ends

end LineageEdge

namespace LineageDefect

def toJson (defect : LineageDefect) : Json :=
  .object
    [("line", .ofNat defect.line), ("kind", .string defect.kind.name),
     ("reason", .string defect.reason.message)]

end LineageDefect

namespace LineageGraph

/-- The node-link form: a directed multigraph without attributes of its own. -/
def toJson (graph : LineageGraph) : Json :=
  .object
    [("directed", .bool true),
     ("multigraph", .bool true),
     ("graph", .object []),
     ("nodes", .ofList LineageNode.toJson graph.nodes),
     ("links", .ofList LineageEdge.toJson graph.edges)]

end LineageGraph

namespace Program

def infoJson (program : Program) : Json :=
  .object
    [("name", stringOrNull program.name),
     ("path", stringOrNull program.path),
     ("lines", .ofNat program.lines),
     ("lastEdit", .ofOption .ofNat program.lastEdit),
     ("summary", kindCountsJson program.summary),
     ("parsed", .string program.counts.rate)]

def treeJson (program : Program) : Json :=
  .object
    [("name", stringOrNull program.name),
     ("parsed", .string program.counts.rate),
     ("stats", program.counts.toJson),
     ("contents", nodesJson program.contents)]

end Program

end SasOutline
