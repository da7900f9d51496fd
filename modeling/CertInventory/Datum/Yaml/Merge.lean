import CertInventory.Datum.Yaml.Graph

/-!
Merging maps into maps. Under the sign of a merge stands a map, or a list of maps, whose entries go before those of
the map that holds the sign; of a list the entries of the first map come last, so that they count. A map is flattened
in place, once for all that hold it, and the signs of merges in it are gone then.
-/

namespace CertInventory.Yaml

abbrev Entry := NodeId × NodeId

namespace Graph

def mergeCount (g : Graph) : Nat :=
  g.nodes.foldl (fun n node => match node.content with
    | .map es => n + es.countP fun (k, _) => g.tag k == .merge
    | _ => n) 0

def settleKeys (g : Graph) (es : List Entry) : Graph :=
  es.foldl (fun g (k, _) => if g.tag k = .defaultValue then g.setTag k .text else g) g

/-- Flattens a map from a place in its entries on; `added` are the entries merged in so far. Each step takes one sign
of a merge away. -/
def flattenFrom : Nat → NodeId → Nat → List Entry → Graph → Option Graph
  | 0, _, _, _, _ => none
  | fuel + 1, id, start, added, g =>
    let es := g.entries id
    let passed := (es.drop start).takeWhile fun (k, _) => g.tag k ≠ .merge
    let stop := start + passed.length
    let g := g.settleKeys passed
    match es.drop stop with
    | [] => some (if added.isEmpty then g else g.setContent id (.map (added ++ es)))
    | (_, value) :: behind =>
      let g := g.setContent id (.map (es.take stop ++ behind))
      let gather (found : List Entry × Graph) (source : NodeId) : Option (List Entry × Graph) :=
        match found.2.content source with
        | .map _ => (flattenFrom fuel source 0 [] found.2).map fun g => (g.entries source ++ found.1, g)
        | _ => none
      let merged := match g.content value with
        | .list items => items.foldlM gather ([], g)
        | _ => gather ([], g) value
      match merged with
      | none => none
      | some (more, g) => flattenFrom fuel id stop (added ++ more) g

/-- Flattens a map; `none` where something else than a map is to be merged in. -/
def flatten? (g : Graph) (id : NodeId) : Option Graph := flattenFrom (g.mergeCount + 1) id 0 [] g

end Graph

end CertInventory.Yaml
