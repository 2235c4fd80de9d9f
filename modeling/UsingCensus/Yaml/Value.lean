import UsingCensus.Yaml.Graph
import UsingCensus.Yaml.Number

namespace UsingCensus.Yaml

/-- A value without parts. `other` is any that has no use as a setting. -/
inductive Atom where
  | null
  | boolean (value : Bool)
  | integer (value : Int)
  | text (value : String)
  | bytes (value : List UInt8)
  | other
  deriving DecidableEq, Repr

/-- `other` is any value that has no use as a setting, and what lies too deep. -/
inductive Value where
  | null
  | boolean (value : Bool)
  | integer (value : Int)
  | text (value : String)
  | bytes (value : List UInt8)
  | sequence (items : List Value)
  | mapping (entries : List (Value × Value))
  | other

def Atom.value : Atom → Value
  | null => .null
  | boolean value => .boolean value
  | integer value => .integer value
  | text value => .text value
  | bytes value => .bytes value
  | other => .other

def Atom.ofText (tag : Tag) (text : String) : Except Fault Atom :=
  match tag with
  | .null => .ok .null
  | .boolean =>
    let lowered := Text.lowerText text
    if trueTexts.contains lowered then .ok (.boolean true)
    else if falseTexts.contains lowered then .ok (.boolean false)
    else .error (.notABoolean lowered)
  | .integer => (integerValue text).map .integer
  | .float =>
    match floatFault? text with
    | none => .ok .other
    | some fault => .error fault
  | .text => .ok (.text text)
  | .binary =>
    match base64? text with
    | some data => .ok (.bytes data)
    | none => .error .malformed
  | .timestamp =>
    let cs := if text.toList.getLast? = some '\n' then text.toList.dropLast else text.toList
    match Timestamp.ofText? cs with
    | none => .error .notATimestamp
    | some timestamp =>
      match timestamp.fault? with
      | none => .ok .other
      | some fault => .error (.timestamp fault)
  | _ => .error .malformed

namespace Graph

def tagOf (graph : Graph) (id : Nat) : Tag := (graph.nodes[id]?.map Node.tag).getD .unknown

def contentOf (graph : Graph) (id : Nat) : Content := (graph.nodes[id]?.map Node.content).getD (.scalar "")

def pairsOf (graph : Graph) (id : Nat) : List (Nat × Nat) :=
  match graph.contentOf id with
  | .mapping pairs => pairs
  | _ => []

def isMapping (graph : Graph) (id : Nat) : Bool :=
  match graph.contentOf id with
  | .mapping _ => true
  | _ => false

/-! ### Atoms -/

/-- The text of a node. A mapping stands for what it has under the key `=`, which may lead back to itself; so
it does if there are more steps than nodes. -/
def textOf (graph : Graph) : Nat → Nat → Except Fault String
  | 0, _ => .error .endless
  | steps + 1, id =>
    match graph.contentOf id with
    | .scalar text => .ok text
    | .sequence _ => .error .malformed
    | .mapping pairs =>
      match pairs.find? fun pair => graph.tagOf pair.1 = .value with
      | some pair => graph.textOf steps pair.2
      | none => .error .malformed

/-- The value of a node without parts. A mapping may stand for a text, but for no timestamp. -/
def atom (graph : Graph) (id : Nat) : Except Fault Atom :=
  let tag := graph.tagOf id
  if !tag.isAtomic then .error .malformed
  else
    match graph.textOf (graph.nodes.length + 1) id with
    | .error fault => .error fault
    | .ok text => if tag = .timestamp && graph.isMapping id then .error .notAText else Atom.ofText tag text

/-! ### Merging -/

def isMerge (graph : Graph) (pair : Nat × Nat) : Bool := graph.tagOf pair.1 = .merge

def setPairs (graph : Graph) (id : Nat) (pairs : List (Nat × Nat)) : Graph :=
  { graph with nodes := graph.nodes.modify id fun node =>
      match node.content with
      | .mapping _ => { node with content := .mapping pairs }
      | _ => node }

/-- In a mapping that is flattened the key `=` is a text like others. -/
def nameKey (graph : Graph) (pair : Nat × Nat) : Graph :=
  { graph with nodes := graph.nodes.modify pair.1 fun node =>
      if node.tag = .value then { node with tag := .text } else node }

/-- The mappings that a merge key asks for. -/
def sources? (graph : Graph) (id : Nat) : Option (List Nat) :=
  match graph.contentOf id with
  | .mapping _ => some [id]
  | .sequence items => if items.all graph.isMapping then some items else none
  | .scalar _ => none

/-- Flatten a source and put its pairs in front of those of the sources before it. -/
def bring (flatten : Graph → Nat → Option Graph) (brought : Graph × List (Nat × Nat)) (source : Nat) :
    Option (Graph × List (Nat × Nat)) :=
  (flatten brought.1 source).map fun flat => (flat, flat.pairsOf source ++ brought.2)

/-- Flatten a mapping, of which some pairs are merged already: take out its merge keys one by one, each before
what it asks for is flattened in its turn, and put the pairs that they bring in front of its own. -/
def flatten : Nat → List (Nat × Nat) → Graph → Nat → Option Graph
  | 0, _, _, _ => none
  | steps + 1, merged, graph, id =>
    let pairs := graph.pairsOf id
    match pairs.find? graph.isMerge with
    | none => some (pairs.foldl nameKey (graph.setPairs id (merged ++ pairs)))
    | some pair => do
      let sources ← graph.sources? pair.2
      let brought ← sources.foldlM (bring (flatten steps [])) (graph.setPairs id (pairs.eraseP graph.isMerge), [])
      flatten steps (merged ++ brought.2) brought.1 id

/-- Every merge key is taken out once. -/
def mergeCount (graph : Graph) : Nat :=
  ((List.range graph.nodes.length).flatMap fun id => (graph.pairsOf id).filter graph.isMerge).length

end Graph
end UsingCensus.Yaml
