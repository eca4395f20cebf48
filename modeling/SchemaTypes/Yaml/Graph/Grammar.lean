import SchemaTypes.Yaml.Graph
import SchemaTypes.Yaml.Scalar
import SchemaTypes.Yaml.Token

/-!
# The grammar of a document

The graph of a document is read from tokens by descent. Where a node may be left out, an empty
scalar stands for it, and an empty plain scalar is null.

An anchor names the node behind it and an alias stands for the node of that name, which has to
begin before the alias does; it may still be under way, so a collection gets its place in the
graph before its content is read.

Collections may not stand inside each other deeper than `maxDepth`.

Tokens may end with a fault. It is the fault of the document if the reading wants a token that is
not there, and not if something else was wrong before.

Every step of the descent takes a token or is one of at most two in a row that do not, so four
steps for each token are enough.
-/

namespace SchemaTypes
namespace Yaml
namespace Grammar

/-- How far tokens have been read, the graph so far, the nodes that have names, what the tag
handles abbreviate, and in how many collections the reading is. -/
structure State where
  tokens : Tokens
  graph : Graph
  anchors : List (String × NodeRef)
  handles : List (String × String)
  depth : Nat

/-- The most collections that may stand inside each other. The number is an estimate: it is what
the limit of one interpreter for calls inside each other leaves for a reader that takes several
calls for every collection. No result here depends on it. -/
def maxDepth : Nat := 490

/-- A step of reading. -/
abbrev Reader := StateT State (Except Fault)

/-- Ends the reading. -/
def malformed {α : Type} : Reader α :=
  throw .malformed

/-- The token here. -/
def peek : Reader (Option Token) := do
  let tokens := (← get).tokens
  match tokens.list, tokens.fault with
  | token :: _, _ => return some token
  | [], some fault => throw fault
  | [], none => return none

/-- Moves behind the token here. -/
def advance : Reader Unit :=
  modify fun state => { state with tokens := { state.tokens with list := state.tokens.list.tail } }

/-- Whether one of the given tokens is here. -/
def sees (tokens : List Token) : Reader Bool := do
  return (← peek).any tokens.contains

/-- Moves behind a token if it is here, and says whether it was. -/
def accept (token : Token) : Reader Bool := do
  let found ← sees [token]
  if found then advance
  return found

/-- Moves behind a token that has to be here. -/
def expect (token : Token) : Reader Unit := do
  if !(← accept token) then malformed

/-! ## Building the graph -/

/-- Adds a node to the graph. -/
def add (node : Node) : Reader NodeRef :=
  modifyGet fun state =>
    let (ref, graph) := state.graph.add node
    (ref, { state with graph })

/-- Adds what stands where a node is left out. -/
def absent : Reader NodeRef :=
  add (.scalar (plainTag []) [])

/-- Gives a node a name. -/
def register (anchor : Option String) (ref : NodeRef) : Reader Unit :=
  match anchor with
  | none => pure ()
  | some name => modify fun state => { state with anchors := (name, ref) :: state.anchors }

/-- Adds a node that may have a name. -/
def addNamed (anchor : Option String) (node : Node) : Reader NodeRef := do
  let ref ← add node
  register anchor ref
  return ref

/-- Reads the content of a collection. -/
def inside {α : Type} (content : Reader α) : Reader α := do
  let depth := (← get).depth
  if maxDepth ≤ depth then throw .tooDeep
  modify fun state => { state with depth := depth + 1 }
  let read ← content
  modify fun state => { state with depth }
  return read

/-- Adds a sequence, and then reads its items. -/
def sequence (anchor : Option String) (tag : Tag) (items : Reader (List NodeRef)) :
    Reader NodeRef := do
  let ref ← addNamed anchor (.sequence tag [])
  let items ← inside items
  modify fun state => { state with graph := state.graph.setNode ref (.sequence tag items) }
  return ref

/-- Adds a mapping, and then reads its entries. -/
def mapping (anchor : Option String) (tag : Tag) (entries : Reader Entries) : Reader NodeRef := do
  let list ← modifyGet fun state =>
    let (list, graph) := state.graph.addList []
    (list, { state with graph })
  let ref ← addNamed anchor (.mapping tag list)
  let entries ← inside entries
  modify fun state => { state with graph := state.graph.setList list entries }
  return ref

/-! ## Properties of a node -/

/-- The name and the tag in front of a node, as they are written. -/
structure Properties where
  anchor : Option String
  tag : Option (Option String × String)

/-- Reads an anchor, if there is one. -/
def anchor? : Reader (Option String) := do
  match ← peek with
  | some (.anchor name) => do
    advance
    return some name
  | _ => return none

/-- Reads a tag, if there is one. -/
def tag? : Reader (Option (Option String × String)) := do
  match ← peek with
  | some (.tag handle suffix) => do
    advance
    return some (handle, suffix)
  | _ => return none

/-- Reads the properties of a node: an anchor and a tag, in either order. -/
def properties : Reader Properties := do
  match ← anchor? with
  | some name => return ⟨some name, ← tag?⟩
  | none => do
    let tag ← tag?
    return ⟨← if tag.isSome then anchor? else pure none, tag⟩

/-- The tag that properties say, with its handle written out. -/
def Properties.fullTag? (properties : Properties) : Reader (Option String) := do
  match properties.tag with
  | none => return none
  | some (none, suffix) => return some suffix
  | some (some handle, suffix) =>
    match (← get).handles.lookup handle with
    | some expansion => return some (expansion ++ suffix)
    | none => malformed

/-- The kind of a collection; an exclamation mark alone says nothing. -/
def collectionTag (written : Option String) (usual : Tag) : Tag :=
  match written with
  | none => usual
  | some s => if s == "!" then usual else .ofText s

/-- The kind of a scalar. Without a tag a plain one is what it looks like and a quoted one is a
text; an exclamation mark alone makes every scalar what it looks like. -/
def scalarTag (written : Option String) (isPlain : Bool) (points : List Nat) : Tag :=
  match written with
  | none => if isPlain then plainTag points else .text
  | some s => if s == "!" then plainTag points else .ofText s

/-! ## The grammar -/

mutual

/-- Reads a node. A block collection may stand here only if `block` says so, and a sequence
without indentation of its own only if `indentless` does. -/
def node : Nat → Bool → Bool → Reader NodeRef
  | 0, _, _ => malformed
  | steps + 1, block, indentless => do
    match ← peek with
    | some (.alias name) => do
      advance
      match (← get).anchors.lookup name with
      | some ref => return ref
      | none => malformed
    | _ => do
      let properties ← properties
      let written ← properties.fullTag?
      let _ ← peek
      let known := (← get).anchors
      if properties.anchor.any fun name => (known.lookup name).isSome then malformed
      else content steps block indentless properties.anchor written

/-- Reads what stands behind the properties of a node. -/
def content : Nat → Bool → Bool → Option String → Option String → Reader NodeRef
  | 0, _, _, _, _ => malformed
  | steps + 1, block, indentless, anchor, written => do
    let listTag := collectionTag written .sequence
    let mapTag := collectionTag written .mapping
    match ← peek, block with
    | some (.scalar points isPlain), _ => do
      advance
      addNamed anchor (.scalar (scalarTag written isPlain points) points)
    | some .flowSequenceStart, _ => do
      advance
      sequence anchor listTag (flowItems steps true)
    | some .flowMappingStart, _ => do
      advance
      mapping anchor mapTag (flowEntries steps true)
    | some .blockSequenceStart, true => do
      advance
      sequence anchor listTag (blockItems steps)
    | some .blockMappingStart, true => do
      advance
      mapping anchor mapTag (blockEntries steps)
    | found, _ =>
      if indentless && found == some .blockEntry then
        sequence anchor listTag (indentlessItems steps)
      else if anchor.isSome || written.isSome then
        addNamed anchor (.scalar (scalarTag written true []) [])
      else malformed

/-- Reads a node, or none if one of the given tokens is here. -/
def nodeUnless : Nat → List Token → Bool → Bool → Reader NodeRef
  | 0, _, _, _ => malformed
  | steps + 1, ends, block, indentless => do
    if ← sees ends then absent else node steps block indentless

/-- Reads the value behind a key, or none if there is no sign of a value. -/
def valueUnless : Nat → List Token → Bool → Reader NodeRef
  | 0, _, _ => malformed
  | steps + 1, ends, block => do
    if ← accept .value then nodeUnless steps ends block block else absent

/-- Reads the items of a block sequence up to its end. -/
def blockItems : Nat → Reader (List NodeRef)
  | 0 => malformed
  | steps + 1 => do
    if ← accept .blockEntry then do
      let first ← nodeUnless steps [.blockEntry, .blockEnd] true false
      return first :: (← blockItems steps)
    else do
      expect .blockEnd
      return []

/-- Reads the items of a sequence without indentation of its own; nothing marks its end. -/
def indentlessItems : Nat → Reader (List NodeRef)
  | 0 => malformed
  | steps + 1 => do
    if ← accept .blockEntry then do
      let first ← nodeUnless steps [.blockEntry, .key, .value, .blockEnd] true false
      return first :: (← indentlessItems steps)
    else return []

/-- Reads the entries of a block mapping up to its end. -/
def blockEntries : Nat → Reader Entries
  | 0 => malformed
  | steps + 1 => do
    if ← accept .key then do
      let key ← nodeUnless steps [.key, .value, .blockEnd] true true
      let value ← valueUnless steps [.key, .value, .blockEnd] true
      return (key, value) :: (← blockEntries steps)
    else do
      expect .blockEnd
      return []

/-- Reads the items of a flow sequence up to its end. A key among them makes a mapping of one
entry. -/
def flowItems : Nat → Bool → Reader (List NodeRef)
  | 0, _ => malformed
  | steps + 1, isFirst => do
    if ← accept .flowSequenceEnd then return []
    else do
      if !isFirst then expect .flowEntry
      if ← accept .flowSequenceEnd then return []
      else if ← accept .key then do
        let pair ← mapping none .mapping (singleEntry steps)
        return pair :: (← flowItems steps false)
      else do
        let first ← node steps false false
        return first :: (← flowItems steps false)

/-- Reads the one entry of a mapping without brackets of its own. -/
def singleEntry : Nat → Reader Entries
  | 0 => malformed
  | steps + 1 => do
    let key ← nodeUnless steps [.value, .flowEntry, .flowSequenceEnd] false false
    let value ← valueUnless steps [.flowEntry, .flowSequenceEnd] false
    return [(key, value)]

/-- Reads the entries of a flow mapping up to its end. An item without a key is a key without a
value. -/
def flowEntries : Nat → Bool → Reader Entries
  | 0, _ => malformed
  | steps + 1, isFirst => do
    if ← accept .flowMappingEnd then return []
    else do
      if !isFirst then expect .flowEntry
      if ← accept .flowMappingEnd then return []
      else if ← accept .key then do
        let key ← nodeUnless steps [.value, .flowEntry, .flowMappingEnd] false false
        let value ← valueUnless steps [.flowEntry, .flowMappingEnd] false
        return (key, value) :: (← flowEntries steps false)
      else do
        let key ← node steps false false
        return (key, ← absent) :: (← flowEntries steps false)

end

/-! ## Documents -/

/-- Reads directives, of which a version may occur once and each handle once. -/
def directives : Nat → Bool → Reader Unit
  | 0, _ => malformed
  | steps + 1, hasVersion => do
    match ← peek with
    | some (.directive directive) => do
      advance
      match directive with
      | .version major _ => do
        if hasVersion || major ≠ 1 then malformed
        directives steps true
      | .tag handle expansion => do
        if ((← get).handles.lookup handle).isSome then malformed
        modify fun state => { state with handles := (handle, expansion) :: state.handles }
        directives steps hasVersion
      | .other => directives steps hasVersion
    | _ => return ()

/-- The handles that need no directive. -/
def usualHandles : List (String × String) :=
  [("!", "!"), ("!!", Tag.commonPart)]

/-- Adds the usual handles to the declared ones, which come first. -/
def useHandles : Reader Unit :=
  modify fun state => { state with handles := state.handles ++ usualHandles }

/-- Reads the tokens in front of the content of a document that begins with a mark. -/
def documentStart (steps : Nat) : Reader Unit := do
  modify fun state => { state with handles := [] }
  directives steps false
  useHandles
  expect .documentStart

/-- Moves behind the tokens that end documents. -/
def skipDocumentEnds : Nat → Reader Unit
  | 0 => pure ()
  | steps + 1 => do
    if ← accept .documentEnd then skipDocumentEnds steps

/-- Reads a document. -/
def document (steps : Nat) : Reader NodeRef := do
  match ← peek with
  | some (.directive _) | some .documentStart => do
    documentStart steps
    let isBare := (← peek).any fun token =>
      token matches .directive _ | .documentStart | .documentEnd | .streamEnd
    if isBare then absent else node steps true false
  | _ => do
    useHandles
    node steps true false

/-- Reads a stream of one document at most; nothing if there is none. What stands behind the
document is read up to where another one would begin. -/
def stream (steps : Nat) : Reader (Option NodeRef) := do
  if ← sees [.streamEnd] then return none
  else do
    let root ← document steps
    skipDocumentEnds steps
    if ← sees [.streamEnd] then return some root
    else do
      documentStart steps
      malformed

end Grammar

/-- The graph of the document that tokens make up, with its root; nothing if they make up none. -/
def Graph.ofTokens? (tokens : Tokens) : Except Fault (Option (NodeRef × Graph)) := do
  let steps := 4 * tokens.list.length + 4
  let (root, state) ← (Grammar.stream steps).run ⟨tokens, .empty, [], [], 0⟩
  return root.map (·, state.graph)

end Yaml
end SchemaTypes
