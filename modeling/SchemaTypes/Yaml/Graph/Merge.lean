import SchemaTypes.Yaml.Fault
import SchemaTypes.Yaml.Graph

/-!
# Merging

A mapping may take over the entries of others under a merge key. They come before its own, so its
own win, and of several merged mappings the first wins. A mapping that is merged takes over what
it merges first. All of this changes the graph: merge keys go away, and the key for a default
value becomes a text in a mapping that is used as one.

## Why it ends

A mapping may merge itself, at whatever distance. Each step below takes one merge key out of a
list, and a list that has been dealt with has none left; so the entries of the mapping that is
under way hold no merge key that is not yet counted, and there are at most as many steps, along
any chain, as there are entries in the graph.
-/

namespace SchemaTypes
namespace Yaml
namespace Graph

/-- A change of a graph that may fail. -/
abbrev Change := StateT Graph (Except Fault)

/-- Ends the change. -/
def malformed {α : Type} : Change α :=
  throw .malformed

/-- The number of the list of a node that has to be a mapping. -/
def listOf (ref : NodeRef) : Change Nat := do
  match (← get).node ref with
  | .mapping _ list => return list
  | _ => malformed

/-- Makes the keys for default values among some entries texts. -/
def nameDefaults (entries : Entries) : Change Unit :=
  modify fun graph =>
    entries.foldl
      (fun graph (key, _) =>
        if graph.tag key = .default then graph.setNode key ((graph.node key).withTag .text)
        else graph)
      graph

/-- Gives a mapping a new list with other entries in front of its own, if there are any. -/
def putInFront (merged : Entries) (ref : NodeRef) : Change Unit := do
  if !merged.isEmpty then
    let graph ← get
    match graph.node ref with
    | .mapping tag list =>
      let (fresh, graph) := graph.addList (merged ++ graph.list list)
      set (graph.setNode ref (.mapping tag fresh))
    | _ => malformed

/-- Lets a mapping take over what its merge keys from a place on bring, behind what has been
merged already. -/
def mergeFrom : Nat → NodeRef → Nat → Entries → Change Unit
  | 0, _, _, _ => malformed
  | steps + 1, ref, place, merged => do
    let list ← listOf ref
    let graph ← get
    let entries := graph.list list
    let passed := (entries.drop place).takeWhile fun (key, _) => graph.tag key != .merge
    nameDefaults passed
    match (entries.drop place).drop passed.length with
    | [] => putInFront merged ref
    | (_, value) :: _ => do
      let place := place + passed.length
      modify (·.setList list (entries.eraseIdx place))
      let more ←
        match graph.node value with
        | .scalar _ _ => malformed
        | .mapping _ _ => do
          mergeFrom steps value 0 []
          let list ← listOf value
          pure ((← get).list list)
        | .sequence _ items => do
          let lists ← items.mapM fun item => do
            let _ ← listOf item
            mergeFrom steps item 0 []
            listOf item
          let graph ← get
          pure (lists.reverse.flatMap graph.list)
      mergeFrom steps ref place (merged ++ more)

/-- Lets a mapping take over what it merges. -/
def merge (ref : NodeRef) : Change Unit := do
  mergeFrom ((← get).entryCount + 1) ref 0 []

end Graph
end Yaml
end SchemaTypes
