import CertInventory.Datum.Yaml.Graph
import CertInventory.Datum.Yaml.Token

/-!
Reading the nodes of a YAML document from its tokens. Tokens are asked for one at a time, so a text that is refused
at some place is refused for what stands before that place first. A text holds one document at most, and an alias
names a node that was begun before it.
-/

namespace CertInventory.Yaml

/-- The state of reading nodes: the tokens left, the nodes begun so far, and those of them that have a name. -/
structure Reading where
  stream : TokenStream
  graph : Graph
  anchors : List (String × NodeId)

abbrev Reader := StateT Reading (Except ScanError)

namespace Reader

def peek : Reader (Option Token) := fun r =>
  match r.stream.tokens, r.stream.fault with
  | t :: _, _ => .ok (some t, r)
  | [], some e => .error e
  | [], none => .ok (none, r)

def skip : Reader Unit := modify fun r => { r with stream := { r.stream with tokens := r.stream.tokens.drop 1 } }

def refuse {α : Type} : Reader α := throw .malformed

/-- Whether the next token satisfies `p`; behind the last one there is none. -/
def nextIs (p : Token → Bool) : Reader Bool := do return (← peek).any p

/-- Passes over the next token if it is the given one, and tells whether it was. -/
def accept (t : Token) : Reader Bool := do
  if ← nextIs (· == t) then
    skip
    return true
  else return false

def add (n : Node) : Reader NodeId := fun r =>
  let (id, g) := r.graph.add n
  .ok (id, { r with graph := g })

def fill (id : NodeId) (c : Content) : Reader Unit := modify fun r => { r with graph := r.graph.setContent id c }

def addEmpty : Reader NodeId := add ⟨.null, .scalar []⟩

end Reader

abbrev Handles := List (String × String)

def defaultHandles : Handles := [("!", "!"), ("!!", "tag:yaml.org,2002:")]

structure Properties where
  anchor : Option String
  tag : Option String

namespace Properties

def isPlain (p : Properties) : Bool := p.tag.isNone || p.tag == some "!"

def scalarTag (p : Properties) (plain : Bool) (text : List Nat) : Tag :=
  match p.tag with
  | some name => if name == "!" then .ofForm (text.map Char.ofNat) else .ofName name
  | none => if plain then .ofForm (text.map Char.ofNat) else .text

def collectionTag (p : Properties) (default : Tag) : Tag :=
  if p.isPlain then default else .ofName (p.tag.getD "")

end Properties

namespace Reader

def fullTag (handles : Handles) : Option String → String → Reader String
  | none, suffix => return suffix
  | some handle, suffix =>
    match handles.lookup handle with
    | some head => return head ++ suffix
    | none => refuse

def anchor? : Reader (Option String) := do
  match ← peek with
  | some (.anchor name) =>
    skip
    return some name
  | _ => return none

def tag? : Reader (Option (Option String × String)) := do
  match ← peek with
  | some (.tag handle suffix) =>
    skip
    return some (handle, suffix)
  | _ => return none

def properties (handles : Handles) : Reader Properties := do
  let before ← anchor?
  let tag ← tag?
  let anchor ← if before.isNone && tag.isSome then anchor? else pure before
  match tag with
  | some (handle, suffix) => return ⟨anchor, some (← fullTag handles handle suffix)⟩
  | none => return ⟨anchor, none⟩

def checkAnchor (p : Properties) : Reader Unit := do
  match p.anchor with
  | some name => if ((← get).anchors.lookup name).isSome then refuse
  | none => return ()

def begun (p : Properties) (n : Node) : Reader NodeId := do
  checkAnchor p
  let id ← add n
  match p.anchor with
  | some name => modify fun r => { r with anchors := (name, id) :: r.anchors }
  | none => pure ()
  return id

def named (name : String) : Reader NodeId := do
  match (← get).anchors.lookup name with
  | some id => return id
  | none => refuse

/-- The node of properties with nothing behind them; without properties it is an error. -/
def bareProperties (p : Properties) : Reader NodeId := do
  if p.anchor.isNone && p.tag.isNone then refuse
  else begun p ⟨p.scalarTag true [], .scalar []⟩

def listNode (p : Properties) (items : Reader (List NodeId)) : Reader NodeId := do
  let id ← begun p ⟨p.collectionTag .list, .list []⟩
  fill id (.list (← items))
  return id

def mapNode (p : Properties) (entries : Reader (List (NodeId × NodeId))) : Reader NodeId := do
  let id ← begun p ⟨p.collectionTag .map, .map []⟩
  fill id (.map (← entries))
  return id

def noProperties : Properties := ⟨none, none⟩

def depthLimit : Nat := 487

def endsBlockPart (t : Token) : Bool := t == .key || t == .value || t == .blockEnd

def endsFlowPart (t : Token) : Bool := t == .value || t == .flowEntry || t == .flowListEnd || t == .flowMapEnd

mutual

/-- Reads a node at a depth. Block collections are read where `block` says so, lists without indentation where `bare`
does. -/
def node (handles : Handles) (block bare : Bool) (depth : Nat) : Nat → Reader NodeId
  | 0 => refuse
  | fuel + 1 => do
    let next ← peek
    if depthLimit < depth then throw .tooDeep
    else
      match next with
      | some (.alias name) =>
        skip
        named name
      | _ =>
        let p ← properties handles
        match ← peek with
        | some (.scalar plain text) =>
          skip
          begun p ⟨p.scalarTag plain text, .scalar text⟩
        | some .flowListStart => listNode p (flowItems handles depth fuel)
        | some .flowMapStart => mapNode p (flowEntries handles depth fuel)
        | some .blockEntry => if bare then listNode p (bareItems handles depth fuel) else bareProperties p
        | some .blockListStart => if block then listNode p (blockItems handles depth fuel) else bareProperties p
        | some .blockMapStart => if block then mapNode p (blockEntries handles depth fuel) else bareProperties p
        | _ => bareProperties p
termination_by structural fuel => fuel

def blockItems (handles : Handles) (depth : Nat) : Nat → Reader (List NodeId)
  | 0 => refuse
  | fuel + 1 => do
    skip
    moreBlockItems handles depth fuel
termination_by structural fuel => fuel

def moreBlockItems (handles : Handles) (depth : Nat) : Nat → Reader (List NodeId)
  | 0 => refuse
  | fuel + 1 => do
    if ← accept .blockEntry then
      let empty ← nextIs fun t => t == .blockEntry || t == .blockEnd
      let item ← if empty then addEmpty else node handles true false (depth + 1) fuel
      return item :: (← moreBlockItems handles depth fuel)
    else if ← accept .blockEnd then return []
    else refuse
termination_by structural fuel => fuel

/-- The items of a list that is not indented below its key, as long as there are any. -/
def bareItems (handles : Handles) (depth : Nat) : Nat → Reader (List NodeId)
  | 0 => refuse
  | fuel + 1 => do
    if ← accept .blockEntry then
      let empty ← nextIs fun t => t == .blockEntry || endsBlockPart t
      let item ← if empty then addEmpty else node handles true false (depth + 1) fuel
      return item :: (← bareItems handles depth fuel)
    else return []
termination_by structural fuel => fuel

def blockEntries (handles : Handles) (depth : Nat) : Nat → Reader (List (NodeId × NodeId))
  | 0 => refuse
  | fuel + 1 => do
    skip
    moreBlockEntries handles depth fuel
termination_by structural fuel => fuel

def moreBlockEntries (handles : Handles) (depth : Nat) : Nat → Reader (List (NodeId × NodeId))
  | 0 => refuse
  | fuel + 1 => do
    if ← accept .key then
      let key ← blockPart handles depth fuel
      let value ← if ← accept .value then blockPart handles depth fuel else addEmpty
      return (key, value) :: (← moreBlockEntries handles depth fuel)
    else if ← accept .blockEnd then return []
    else refuse
termination_by structural fuel => fuel

def blockPart (handles : Handles) (depth : Nat) : Nat → Reader NodeId
  | 0 => refuse
  | fuel + 1 => do
    if ← nextIs endsBlockPart then addEmpty else node handles true true (depth + 1) fuel
termination_by structural fuel => fuel

def flowItems (handles : Handles) (depth : Nat) : Nat → Reader (List NodeId)
  | 0 => refuse
  | fuel + 1 => do
    skip
    if ← accept .flowListEnd then return [] else flowItem handles depth fuel
termination_by structural fuel => fuel

/-- An item of a list in flow style, which may be missing before the end, and the items behind it. An item with a key
is a map of one entry. -/
def flowItem (handles : Handles) (depth : Nat) : Nat → Reader (List NodeId)
  | 0 => refuse
  | fuel + 1 => do
    if ← nextIs (· == .key) then
      let item ← mapNode noProperties do return [← flowEntry handles (depth + 1) fuel]
      return item :: (← moreFlowItems handles depth fuel)
    else if ← accept .flowListEnd then return []
    else
      let item ← node handles false false (depth + 1) fuel
      return item :: (← moreFlowItems handles depth fuel)
termination_by structural fuel => fuel

def moreFlowItems (handles : Handles) (depth : Nat) : Nat → Reader (List NodeId)
  | 0 => refuse
  | fuel + 1 => do
    if ← accept .flowListEnd then return []
    else if ← accept .flowEntry then flowItem handles depth fuel
    else refuse
termination_by structural fuel => fuel

def flowEntry (handles : Handles) (depth : Nat) : Nat → Reader (NodeId × NodeId)
  | 0 => refuse
  | fuel + 1 => do
    skip
    let key ← flowPart handles depth fuel
    let value ← if ← accept .value then flowPart handles depth fuel else addEmpty
    return (key, value)
termination_by structural fuel => fuel

def flowPart (handles : Handles) (depth : Nat) : Nat → Reader NodeId
  | 0 => refuse
  | fuel + 1 => do
    if ← nextIs endsFlowPart then addEmpty else node handles false false (depth + 1) fuel
termination_by structural fuel => fuel

def flowEntries (handles : Handles) (depth : Nat) : Nat → Reader (List (NodeId × NodeId))
  | 0 => refuse
  | fuel + 1 => do
    skip
    if ← accept .flowMapEnd then return [] else flowPair handles depth fuel
termination_by structural fuel => fuel

/-- An entry of a map in flow style, which may be missing before the end, and the entries behind it. A node without a
value is a key. -/
def flowPair (handles : Handles) (depth : Nat) : Nat → Reader (List (NodeId × NodeId))
  | 0 => refuse
  | fuel + 1 => do
    if ← nextIs (· == .key) then
      let entry ← flowEntry handles depth fuel
      return entry :: (← moreFlowEntries handles depth fuel)
    else if ← accept .flowMapEnd then return []
    else
      let key ← node handles false false (depth + 1) fuel
      let value ← addEmpty
      return (key, value) :: (← moreFlowEntries handles depth fuel)
termination_by structural fuel => fuel

def moreFlowEntries (handles : Handles) (depth : Nat) : Nat → Reader (List (NodeId × NodeId))
  | 0 => refuse
  | fuel + 1 => do
    if ← accept .flowMapEnd then return []
    else if ← accept .flowEntry then flowPair handles depth fuel
    else refuse
termination_by structural fuel => fuel

end

def fuelFor (r : Reading) : Nat := 4 * r.stream.tokens.length + 8

/-- The directives before a document. At most one gives a version, which is 1, and no handle is given twice. -/
def directives (seen : Bool) (given : Handles) : Nat → Reader Handles
  | 0 => refuse
  | fuel + 1 => do
    match ← peek with
    | some (.directive d) =>
      skip
      match d with
      | .version major _ => if seen || major != 1 then refuse else directives true given fuel
      | .tagHandle handle head =>
        if (given.lookup handle).isSome then refuse else directives seen ((handle, head) :: given) fuel
      | .other => directives seen given fuel
    | _ => return given ++ defaultHandles

def documentEnds : Nat → Reader Unit
  | 0 => return ()
  | fuel + 1 => do if ← accept .documentEnd then documentEnds fuel

def isDocumentMark : Token → Bool
  | .directive _ | .documentStart | .documentEnd => true
  | _ => false

def explicitRoot : Reader NodeId := do
  let fuel := fuelFor (← get)
  let handles ← directives false [] fuel
  if ← accept .documentStart then
    match ← peek with
    | none => addEmpty
    | some t => if isDocumentMark t then addEmpty else node handles true false 1 fuel
  else refuse

def root? : Reader (Option NodeId) := do
  let fuel := fuelFor (← get)
  match ← peek with
  | none => return none
  | some t =>
    let explicit := match t with
      | .directive _ | .documentStart => true
      | _ => false
    let id ← if explicit then explicitRoot else node defaultHandles true false 1 fuel
    documentEnds fuel
    match ← peek with
    | none => return some id
    | some _ =>
      let _ ← directives false [] fuel
      refuse

end Reader

def Graph.ofText (cs : List Char) : Except ScanError (Option NodeId × Graph) :=
  (Reader.root?.run ⟨TokenStream.ofText cs, .empty, []⟩).map fun (root, r) => (root, r.graph)

end CertInventory.Yaml
