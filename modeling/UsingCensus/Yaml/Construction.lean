import UsingCensus.Yaml.Value

/-!
The values of documents. Every node has to make sense, also one that nobody asks for, and the first that does
not is the fault: values without parts are made as soon as they are met, collections wait in line and are filled
one after the other. Merging changes the graph while that goes on, so its order counts.
-/
namespace UsingCensus.Yaml

/-- What has been made of a graph: values without parts, each once, and collections, of which some wait to be
filled. -/
structure Construction where
  graph : Graph
  made : List (Nat × Atom)
  found : List Nat
  waiting : List Nat
  deriving DecidableEq, Repr

namespace Construction

def start (graph : Graph) : Construction := ⟨graph, [], [], []⟩

def isCollection (construction : Construction) (id : Nat) : Bool := (construction.graph.tagOf id).isCollection

def make (construction : Construction) (id : Nat) : Except Fault Construction :=
  if construction.isCollection id then
    if id ∈ construction.found then .ok construction
    else .ok { construction with found := id :: construction.found, waiting := construction.waiting ++ [id] }
  else if (construction.made.lookup id).isSome then .ok construction
  else (construction.graph.atom id).map fun atom => { construction with made := (id, atom) :: construction.made }

/-- Collections cannot be keys. -/
def makePair (construction : Construction) (pair : Nat × Nat) : Except Fault Construction :=
  if construction.isCollection pair.1 then .error .malformed
  else construction.make pair.1 >>= (·.make pair.2)

/-- An item of an ordered mapping has one pair, and its key may be anything. -/
def makeItem (construction : Construction) (id : Nat) : Except Fault Construction :=
  match construction.graph.contentOf id with
  | .mapping [(key, value)] => construction.make key >>= (·.make value)
  | _ => .error .malformed

def fillMapping (construction : Construction) (id : Nat) : Except Fault Construction :=
  match construction.graph.flatten (construction.graph.mergeCount + 1) [] id with
  | some flat => (flat.pairsOf id).foldlM makePair { construction with graph := flat }
  | none => .error .malformed

def fill (construction : Construction) (id : Nat) : Except Fault Construction :=
  match construction.graph.tagOf id, construction.graph.contentOf id with
  | .sequence, .sequence items => items.foldlM make construction
  | .orderedMap, .sequence items => items.foldlM makeItem construction
  | .pairs, .sequence items => items.foldlM makeItem construction
  | .mapping, .mapping _ => construction.fillMapping id
  | .set, .mapping _ => construction.fillMapping id
  | _, _ => .error .malformed

/-- Fill the collections that wait, a number of them at most. -/
def fillAll : Nat → Construction → Except Fault Construction
  | 0, construction => .ok construction
  | count + 1, construction =>
    match construction.waiting with
    | [] => .ok construction
    | id :: waiting => { construction with waiting := waiting }.fill id >>= fillAll count

/-- Every collection waits once. -/
def ofGraph (graph : Graph) : Except Fault Construction :=
  (start graph).make graph.root >>= fillAll graph.nodes.length

/-- The value of a node to a depth, because a value may lie in itself. -/
def unfold (construction : Construction) : Nat → Nat → Value
  | 0, _ => .other
  | depth + 1, id =>
    match construction.graph.tagOf id, construction.graph.contentOf id with
    | .sequence, .sequence items => .sequence (items.map (unfold construction depth))
    | .orderedMap, .sequence items => .sequence (items.map fun _ => .other)
    | .pairs, .sequence items => .sequence (items.map fun _ => .other)
    | .mapping, .mapping pairs =>
      .mapping (pairs.map fun (key, value) => (unfold construction depth key, unfold construction depth value))
    | _, _ => ((construction.made.lookup id).map Atom.value).getD .other

end Construction

/-- The value of a text to a depth. A text without a document has none. -/
def Value.ofText (depth : Nat) (text : List Char) : Except Fault Value :=
  match Graph.ofText text with
  | .error fault => .error fault
  | .ok none => .ok .null
  | .ok (some graph) => (Construction.ofGraph graph).map (·.unfold depth graph.root)

end UsingCensus.Yaml
