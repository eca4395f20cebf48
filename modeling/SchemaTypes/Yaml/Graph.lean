import SchemaTypes.Yaml.Tag

/-!
# The graph of a document

A document is one node: a scalar, a sequence or a mapping, each with its kind. A node may occur in
several places, because an alias stands for the very node that it names, and even inside itself;
so nodes are kept in a graph and refer to each other by number.

The entries of a mapping are a list with a number of its own. While a mapping takes over entries
of others it changes its list and in the end gets another one, and who has the number of the old
list still sees that.

A number is given out only when there is something to give it to, so looking one up always finds
something; the functions here are total all the same and find an empty scalar or list otherwise.
-/

namespace SchemaTypes
namespace Yaml

/-- A reference to a node. -/
abbrev NodeRef := Nat

/-- The entries of a mapping: keys and values. -/
abbrev Entries := List (NodeRef × NodeRef)

/-- A node. -/
inductive Node where
  | scalar (tag : Tag) (points : List Nat)
  | sequence (tag : Tag) (items : List NodeRef)
  /-- The number is that of the list of the entries. -/
  | mapping (tag : Tag) (list : Nat)
deriving Repr

/-- The kind of a node. -/
def Node.tag : Node → Tag
  | .scalar tag _ => tag
  | .sequence tag _ => tag
  | .mapping tag _ => tag

/-- A node with another kind. -/
def Node.withTag (tag : Tag) : Node → Node
  | .scalar _ points => .scalar tag points
  | .sequence _ items => .sequence tag items
  | .mapping _ list => .mapping tag list

/-- Nodes, and the lists of entries of the mappings among them. -/
structure Graph where
  nodes : Array Node
  lists : Array Entries

namespace Graph

/-- The graph without nodes. -/
def empty : Graph := ⟨#[], #[]⟩

/-- The node of a reference. -/
def node (graph : Graph) (ref : NodeRef) : Node :=
  graph.nodes.getD ref (.scalar .null [])

/-- The kind of the node of a reference. -/
def tag (graph : Graph) (ref : NodeRef) : Tag :=
  (graph.node ref).tag

/-- The entries in a list. -/
def list (graph : Graph) (n : Nat) : Entries :=
  graph.lists.getD n []

/-- Adds a node. -/
def add (graph : Graph) (node : Node) : NodeRef × Graph :=
  (graph.nodes.size, { graph with nodes := graph.nodes.push node })

/-- Puts another node in the place of one. -/
def setNode (graph : Graph) (ref : NodeRef) (node : Node) : Graph :=
  { graph with nodes := graph.nodes.setIfInBounds ref node }

/-- Adds a list of entries. -/
def addList (graph : Graph) (entries : Entries) : Nat × Graph :=
  (graph.lists.size, { graph with lists := graph.lists.push entries })

/-- Changes a list of entries. -/
def setList (graph : Graph) (n : Nat) (entries : Entries) : Graph :=
  { graph with lists := graph.lists.setIfInBounds n entries }

/-- The entries of a node, if it is a mapping. -/
def entries? (graph : Graph) (ref : NodeRef) : Option Entries :=
  match graph.node ref with
  | .mapping _ list => some (graph.list list)
  | _ => none

/-- The number of entries in all lists. -/
def entryCount (graph : Graph) : Nat :=
  graph.lists.foldl (fun count entries => count + entries.length) 0

end Graph
end Yaml
end SchemaTypes
