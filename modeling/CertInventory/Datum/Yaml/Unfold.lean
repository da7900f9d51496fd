import CertInventory.Datum.Yaml.Build
import CertInventory.Datum.Yaml.Document

/-!
The content that the nodes of a document unfold to. A container that comes back to itself, or to a container around it,
is put into a knot with its name; where it is met inside itself, its name stands for it. What does not come back to
anything around it is unfolded once, however often it is met. The content of a text is that of its root.
-/

namespace CertInventory.Yaml

/-- Content, and the names of the containers around it that it comes back to. -/
structure Unfolded where
  content : Datum
  back : List NodeId

/-- A step of unfolding, with the content of those nodes that come back to nothing around them. -/
abbrev Unfolder := StateM (Array (Option Datum))

def Form.isMap : Form → Bool
  | .map _ => true
  | _ => false

def Form.unfoldParts (unfold : NodeId → Unfolder Unfolded) : Form → Unfolder Unfolded
  | .scalar s => return ⟨.scalar s, []⟩
  | .list items => do
    let parts ← items.mapM unfold
    return ⟨.list (parts.map Unfolded.content), parts.flatMap Unfolded.back⟩
  | .pairs items => do
    let parts ← items.mapM fun (first, second) => return (← unfold first, ← unfold second)
    return ⟨.list (parts.map fun (a, b) => .pair a.content b.content), parts.flatMap fun (a, b) => a.back ++ b.back⟩
  | .set members => return ⟨.set members, []⟩
  | .map entries => do
    let parts ← entries.mapM fun (key, value) => return (key, ← unfold value)
    return ⟨.map (parts.map fun (key, v) => (key, v.content)), parts.flatMap fun (_, v) => v.back⟩

/-- A container with its parts unfolded: in a knot if it comes back to itself or to something around it. -/
def Unfolded.tied (id : NodeId) (parts : Unfolded) : Unfolded :=
  if parts.back.isEmpty then parts else ⟨.knot id parts.content, parts.back.eraseDups.filter (· ≠ id)⟩

def unfoldIn (forms : Array (Option Form)) : Nat → List NodeId → NodeId → Unfolder Unfolded
  | 0, _, _ => return ⟨.null, []⟩
  | fuel + 1, around, id => do
    match (forms[id]?).join, ((← get)[id]?).join with
    | _, some content => return ⟨content, []⟩
    | none, none => return ⟨.null, []⟩
    | some form, none =>
      if around.contains id then return ⟨.again id form.isMap, [id]⟩
      else
        let u := (← form.unfoldParts fun part => unfoldIn forms fuel (id :: around) part).tied id
        if u.back.isEmpty then modify fun known => known.setIfInBounds id (some u.content)
        return u

/-- The content of a node. A way through containers that are all different is no longer than their number. -/
def unfold (forms : Array (Option Form)) (id : NodeId) : Datum :=
  ((unfoldIn forms (forms.size + 1) [] id).run (Array.replicate forms.size none)).1.content

def ValueError.ofScan : ScanError → ValueError
  | .malformed => .malformed
  | .noSuchCharacter => .refused "chr() arg not in range(0x110000)"
  | .oversizedCode => .outOfRange
  | .longNumber digits => .refused (Text.tooLongMessage digits)
  | .tooDeep => .tooDeep

def read (cs : List Char) : Except ValueError (Option Datum) := do
  match ← (Graph.ofText cs).mapError ValueError.ofScan with
  | (none, _) => return none
  | (some root, g) => return some (unfold (← g.forms root) root)

end CertInventory.Yaml
