import CertInventory.Datum.Yaml.Tag

/-!
The nodes of a YAML document: scalars, lists and maps, each with its tag. A node is named by its place in the order in
which nodes were begun, and collections hold the names of their parts, so an alias is a node met again, and a
collection may hold itself.
-/

namespace CertInventory.Yaml

abbrev NodeId := Nat

inductive Content where
  | scalar (text : List Nat)
  | list (items : List NodeId)
  | map (entries : List (NodeId × NodeId))
  deriving DecidableEq, Repr

instance : Inhabited Content := ⟨.scalar []⟩

structure Node where
  tag : Tag
  content : Content
  deriving DecidableEq, Repr

instance : Inhabited Node := ⟨⟨.null, default⟩⟩

/-- The nodes of a document, each under its name. -/
structure Graph where
  nodes : Array Node

namespace Graph

def empty : Graph := ⟨#[]⟩

def size (g : Graph) : Nat := g.nodes.size

def node (g : Graph) (id : NodeId) : Node := g.nodes.getD id default

def tag (g : Graph) (id : NodeId) : Tag := (g.node id).tag

def content (g : Graph) (id : NodeId) : Content := (g.node id).content

def entries (g : Graph) (id : NodeId) : List (NodeId × NodeId) :=
  match g.content id with
  | .map es => es
  | _ => []

def add (g : Graph) (n : Node) : NodeId × Graph := (g.size, ⟨g.nodes.push n⟩)

def setContent (g : Graph) (id : NodeId) (c : Content) : Graph :=
  ⟨g.nodes.modify id fun n => { n with content := c }⟩

def setTag (g : Graph) (id : NodeId) (t : Tag) : Graph := ⟨g.nodes.modify id fun n => { n with tag := t }⟩

end Graph

end CertInventory.Yaml
