import CertInventory.Datum.Yaml.Literal
import CertInventory.Datum.Yaml.Members
import CertInventory.Datum.Yaml.Merge

/-!
What the nodes of a document stand for. Scalars get their values as they are met; containers are put off, and looked
at batch by batch in the order in which they were met. So of several faults the one nearest to the root is reported,
and of those the first.
-/

namespace CertInventory.Yaml

/-- What a node stands for: a scalar, or a container with the nodes in it. -/
inductive Form where
  | scalar (s : Scalar)
  | list (items : List NodeId)
  | pairs (items : List Entry)
  | set (members : List Scalar)
  | map (entries : List (Scalar × NodeId))

def Form.ofTag? : Tag → Option Form
  | .list => some (.list [])
  | .orderedMap | .pairs => some (.pairs [])
  | .set => some (.set [])
  | .map => some (.map [])
  | _ => none

/-- The state of building: the nodes, the forms of those met so far, and the containers put off, latest first. -/
structure Building where
  graph : Graph
  forms : Array (Option Form)
  waiting : List NodeId

abbrev Builder := StateT Building (Except ValueError)

namespace Builder

def note (id : NodeId) (f : Form) : Builder Unit :=
  modify fun b => { b with forms := b.forms.setIfInBounds id (some f) }

def form? (id : NodeId) : Builder (Option Form) := return ((← get).forms[id]?).join

def meet (id : NodeId) : Builder Unit := do
  let b ← get
  if (← form? id).isNone then
    match Form.ofTag? (b.graph.tag id) with
    | some f =>
      note id f
      modify fun b => { b with waiting := id :: b.waiting }
    | none => note id (.scalar (← b.graph.scalar id))

def key (id : NodeId) : Builder Scalar := do
  meet id
  match ← form? id with
  | some (.scalar s) => return s
  | _ => throw .malformed

/-- An entry of a map that is being built: the node of its key, the key, and the node of its value. -/
abbrev KeyedEntry := NodeId × Scalar × NodeId

/-- Whether two keys are one: a node is one with itself, and so are all that are written as no number. -/
def isSame (g : Graph) (a b : NodeId × Scalar) : Bool :=
  a.1 == b.1 || a.2.sameKey b.2 || (g.isNotANumber a.1 && g.isNotANumber b.1)

/-- Puts an entry into a map: a key that is there keeps its place and takes the new value. -/
def put (g : Graph) (e : KeyedEntry) : List KeyedEntry → List KeyedEntry
  | [] => [e]
  | (id, key, value) :: r =>
    if isSame g (id, key) (e.1, e.2.1) then (id, key, e.2.2) :: r else (id, key, value) :: put g e r

/-- The entries of a map, those of other maps merged in, each key met before its value. -/
def entries (id : NodeId) : Builder (List (Scalar × NodeId)) := do
  match (← get).graph.content id with
  | .map _ =>
    match (← get).graph.flatten? id with
    | none => throw .malformed
    | some g =>
      modify fun b => { b with graph := g }
      let found ← (g.entries id).foldlM (fun done (k, v) => do
        let s ← key k
        meet v
        return put g (k, s, v) done) ([] : List KeyedEntry)
      return found.map fun (_, s, v) => (s, v)
  | _ => throw .malformed

def items (id : NodeId) : Builder (List NodeId) := do
  match (← get).graph.content id with
  | .list found =>
    found.forM meet
    return found
  | _ => throw .malformed

def pairs (id : NodeId) : Builder (List Entry) := do
  match (← get).graph.content id with
  | .list found =>
    found.mapM fun item => do
      match (← get).graph.entries item with
      | [(k, v)] =>
        meet k
        meet v
        return (k, v)
      | _ => throw .malformed
  | _ => throw .malformed

def fill (id : NodeId) : Builder Unit := do
  match ← form? id with
  | some (.list _) => note id (.list (← items id))
  | some (.pairs _) => note id (.pairs (← pairs id))
  | some (.set _) => note id (.set (Members.inOrder ((← entries id).map Prod.fst)))
  | some (.map _) => note id (.map (← entries id))
  | _ => return ()

def fillAll : Nat → Builder Unit
  | 0 => return ()
  | fuel + 1 => do
    let b ← get
    if !b.waiting.isEmpty then
      set { b with waiting := [] }
      b.waiting.reverse.forM fill
      fillAll fuel

end Builder

def Graph.forms (g : Graph) (root : NodeId) : Except ValueError (Array (Option Form)) := do
  let build : Builder Unit := do
    Builder.meet root
    Builder.fillAll (g.size + 1)
  let (_, b) ← build.run ⟨g, Array.replicate g.size none, []⟩
  return b.forms

end CertInventory.Yaml
