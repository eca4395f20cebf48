import SchemaTypes.Yaml.Graph.Grammar
import SchemaTypes.Yaml.Graph.Merge
import SchemaTypes.Yaml.Scalar
import SchemaTypes.Yaml.Token.Stream

/-!
# Documents and their objects

Reading a YAML text from beginning to end: a source gives tokens, tokens give a graph, and the
graph gives a value. Each of the three may fail. A fault of the source counts only where the
grammar wants the tokens that it spoils, and values are not looked at before the whole text has
been read.

## Objects

The value of a document is built in two steps. First every node that is reached from the root
becomes an object, and objects refer to each other by number as nodes do. Then the object of the
root is written out as a value.

A collection is made before its content is, all collections in the order in which they were met;
so all collections of one depth come before those of the next, and of several faults the one to be
reported is the first in that order. A node becomes an object once, however often it occurs.

## Keys

A key must not be a collection. Two keys are the same if they are the same object or have the same
value; of entries with the same key the last gives the value, and the first the place. The first
alternative matters for what is not a number, which has the value of nothing, not even its own.
All usual spellings of it are one object.
-/

namespace SchemaTypes
namespace Yaml

/-- A reference to an object. -/
abbrev ObjectRef := Nat

/-- An object. -/
inductive Object where
  | scalar (value : Value)
  | list (items : List ObjectRef)
  | map (entries : List (ObjectRef × ObjectRef))
deriving Repr

namespace Object

/-- How far the nodes of a graph have become objects. -/
structure State where
  graph : Graph
  objects : Array Object
  /-- The object of a node, for the nodes that have one. -/
  made : Array (Option ObjectRef)
  /-- The collections whose content is still to be made, in the order in which they were met. -/
  waiting : List (NodeRef × ObjectRef)
  /-- The object that is no number in its usual spelling. -/
  nan : Option ObjectRef

/-- A step of making objects. -/
abbrev Builder := StateT State (Except Fault)

/-- Ends the making. -/
def malformed {α : Type} : Builder α :=
  throw .malformed

/-- Adds an object. -/
def add (object : Object) : Builder ObjectRef :=
  modifyGet fun state =>
    (state.objects.size, { state with objects := state.objects.push object })

/-- Puts another object in the place of one. -/
def put (ref : ObjectRef) (object : Object) : Builder Unit :=
  modify fun state => { state with objects := state.objects.setIfInBounds ref object }

/-- The object of a reference. -/
def State.object (state : State) (ref : ObjectRef) : Object :=
  state.objects.getD ref (.scalar .null)

/-! ## Scalars -/

/-- The code points of a node where a scalar is wanted: those of a scalar, and for a mapping those
of its default value, if it has one. A way longer than there are nodes has no end. -/
def scalarPoints (graph : Graph) : Nat → NodeRef → Except Fault (List Nat)
  | 0, _ => .error .tooDeep
  | steps + 1, ref =>
    match graph.node ref with
    | .scalar _ points => .ok points
    | .sequence _ _ => .error .malformed
    | .mapping _ n =>
      match (graph.list n).find? fun entry => graph.tag entry.1 = .default with
      | some (_, value) => scalarPoints graph steps value
      | none => .error .malformed

/-- Adds the object of a node whose kind is one of scalars. -/
def makeScalar (ref : NodeRef) (tag : Tag) : Builder ObjectRef := do
  let state ← get
  if tag = .merge ∨ tag = .default ∨ tag = .unknown then malformed
  let points ← scalarPoints state.graph (state.graph.nodes.size + 1) ref
  match tag, state.graph.node ref with
  | .date, .mapping _ _ => throw (.scalar .collectionAsDate)
  | _, _ => do
    let value ← scalarValue tag points
    if tag = .float ∧ isUsualNan points then
      match state.nan with
      | some known => return known
      | none => do
        let fresh ← add (.scalar value)
        modify fun state => { state with nan := some fresh }
        return fresh
    else add (.scalar value)

/-! ## Collections -/

/-- The object of a node. A collection is empty at first and waits for its content. -/
def make (ref : NodeRef) : Builder ObjectRef := do
  let state ← get
  match (state.made.getD ref none) with
  | some known => return known
  | none => do
    let tag := state.graph.tag ref
    let made ←
      if tag.isCollection then do
        let fresh ← add (if tag = .mapping then .map [] else .list [])
        modify fun state => { state with waiting := state.waiting ++ [(ref, fresh)] }
        pure fresh
      else makeScalar ref tag
    modify fun state => { state with made := state.made.setIfInBounds ref (some made) }
    return made

/-- The object of a key, which must not be a collection. -/
def makeKey (ref : NodeRef) : Builder ObjectRef := do
  let key ← make ref
  match (← get).object key with
  | .scalar _ => return key
  | _ => malformed

/-- Whether two objects are the same key. -/
def State.sameKey (state : State) (a b : ObjectRef) : Bool :=
  a == b ||
    match state.object a, state.object b with
    | .scalar v, .scalar w => v.sameKey w
    | _, _ => false

/-- Writes an entry among others: a known key keeps its place. -/
def State.insert (state : State) (key value : ObjectRef) :
    List (ObjectRef × ObjectRef) → List (ObjectRef × ObjectRef)
  | [] => [(key, value)]
  | (known, old) :: rest =>
    if state.sameKey known key then (known, value) :: rest
    else (known, old) :: state.insert key value rest

/-- The entries of a mapping, each key once. The mapping takes over first what it merges. -/
def entries (ref : NodeRef) : Builder (List (ObjectRef × ObjectRef)) := do
  let state ← get
  let (_, graph) ← (Graph.merge ref).run state.graph
  set { state with graph }
  let made ← ((graph.entries? ref).getD []).mapM fun (key, value) => do
    let key ← makeKey key
    return (key, ← make value)
  let state ← get
  return made.foldl (fun known entry => state.insert entry.1 entry.2 known) []

/-- The items of a sequence. -/
def items (ref : NodeRef) : Builder (List NodeRef) := do
  match (← get).graph.node ref with
  | .sequence _ items => return items
  | _ => malformed

/-- A list of the key and the value of a mapping that has just one entry. -/
def pair (ref : NodeRef) : Builder ObjectRef := do
  match (← get).graph.entries? ref with
  | some [(key, value)] => do
    let key ← make key
    add (.list [key, ← make value])
  | _ => malformed

/-- The content of a collection of a given kind. -/
def content (ref : NodeRef) (tag : Tag) : Builder Object := do
  match tag with
  | .mapping => return .map (← entries ref)
  | .keys => return .list ((← entries ref).map (·.1))
  | .orderedMapping | .pairs => return .list (← (← items ref).mapM pair)
  | _ => return .list (← (← items ref).mapM make)

/-- Makes the contents of the collections that wait. Every node waits once at most. -/
def fill : Nat → Builder Unit
  | 0 => return ()
  | steps + 1 => do
    let state ← get
    match state.waiting with
    | [] => return ()
    | (node, object) :: rest => do
      set { state with waiting := rest }
      put object (← content node (state.graph.tag node))
      fill steps

/-! ## Values -/

/-- What a collection is that stands inside itself: one with as many nulls as it has content. -/
def hollow : Object → Value
  | .scalar value => value
  | .list items => .list (items.map fun _ => .null)
  | .map entries => .map (entries.map fun _ => (.null, .null))

/-- The values of objects that have been written out. -/
abbrev Written := Array (Option Value)

/-- Writes out an object, given those in which it stands. -/
def write (objects : Array Object) : Nat → List ObjectRef → ObjectRef → StateM Written Value
  | 0, _, _ => return .null
  | steps + 1, around, ref => do
    let object := objects.getD ref (.scalar .null)
    match (← get).getD ref none with
    | some value => return value
    | none =>
      if around.contains ref then return hollow object
      else do
        let inside := write objects steps (ref :: around)
        let value ←
          match object with
          | .scalar value => pure value
          | .list items => Value.list <$> items.mapM inside
          | .map entries =>
            Value.map <$> entries.mapM fun (key, value) => do
              let key ← inside key
              return (key, ← inside value)
        modify fun written => written.setIfInBounds ref (some value)
        return value

end Object

/-- The value of a node of a graph. -/
def Graph.value (graph : Graph) (root : NodeRef) : Except Fault Value := do
  let count := graph.nodes.size
  let building : Object.Builder ObjectRef := do
    let root ← Object.make root
    Object.fill (count + 1)
    return root
  let (root, state) ← building.run ⟨graph, #[], Array.replicate count none, [], none⟩
  let size := state.objects.size
  return ((Object.write state.objects (size + 1) [] root).run (Array.replicate size none)).1

/-- Reads the one document of a source; a source without a document is null. -/
def read (source : Source) : Except Fault Value := do
  match ← Graph.ofTokens? (tokens source) with
  | none => return .null
  | some (root, graph) => graph.value root

/-- Reads the document that the bytes of a file are. -/
def readBytes (bytes : List UInt8) : Except Fault Value :=
  read (.ofReading (Text.Utf8.read bytes))

end Yaml
end SchemaTypes
