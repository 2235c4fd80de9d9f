import UsingCensus.Yaml.Timestamp
import UsingCensus.Yaml.Token

/-!
The nodes of a document, told apart by number because a node may stand in several places, and in itself.
The tokens are composed one by one under a stack of open collections: a token first fills in the nodes
that were left out before it and ends the sequences that nothing else ends, and then takes its own
effect.
-/
namespace UsingCensus.Yaml

inductive Content where
  | scalar (text : String)
  | sequence (items : List Nat)
  | mapping (pairs : List (Nat × Nat))
  deriving DecidableEq, Repr

structure Node where
  tag : Tag
  content : Content
  deriving DecidableEq, Repr

structure Graph where
  nodes : List Node
  root : Nat
  deriving DecidableEq, Repr

inductive CollectionKind where
  | document (explicit : Bool)
  | blockSequence
  | indentless
  | blockMapping
  | flowSequence
  | flowPair
  | flowMapping
  deriving DecidableEq, Repr

namespace CollectionKind

/-- May block collections stand directly inside? -/
def admitsBlocks : CollectionKind → Bool
  | flowSequence => false
  | flowPair => false
  | flowMapping => false
  | _ => true

end CollectionKind

/-- What comes next in an open collection: an indicator, an entry, a key, what is said of a key, or the
value of a key. -/
inductive Phase where
  | between
  | entry
  | keyed
  | named (key : Nat)
  | valued (key : Nat)
  deriving DecidableEq, Repr

namespace Phase

def expectsNode : Phase → Bool
  | entry => true
  | keyed => true
  | valued _ => true
  | _ => false

end Phase

structure Frame where
  kind : CollectionKind
  id : Nat
  phase : Phase
  deriving DecidableEq, Repr

namespace Frame

/-- Tokens before which a node may be left out. -/
def allowsMissing (frame : Frame) (token : Token) : Bool :=
  match frame.kind, frame.phase with
  | .document true, .entry =>
    match token with
    | .directive _ => true
    | .documentStart => true
    | .documentEnd => true
    | .streamEnd => true
    | _ => false
  | .blockSequence, .entry => token = .blockEntry || token = .blockEnd
  | .indentless, .entry => [Token.blockEntry, .key, .value, .blockEnd].contains token
  | .blockMapping, _ => [Token.key, .value, .blockEnd].contains token
  | .flowPair, .keyed => [Token.value, .flowEntry, .flowSequenceEnd].contains token
  | .flowPair, .valued _ => token = .flowEntry || token = .flowSequenceEnd
  | .flowMapping, .keyed => [Token.value, .flowEntry, .flowMappingEnd].contains token
  | .flowMapping, .valued _ => token = .flowEntry || token = .flowMappingEnd
  | _, _ => false

end Frame

/-- A prologue after the only document is one too many, which shows when its document starts. -/
inductive Stage where
  | fresh
  | prologue (surplus versioned : Bool)
  | document
  | finished
  deriving DecidableEq, Repr

/-- `anchor` and `tag` wait for the next node; `stranded` tells that the tag has a handle without a meaning. -/
structure Composition where
  stage : Stage
  nodes : List Node
  anchors : List (String × Nat)
  handles : List (String × String)
  anchor : Option String
  tag : Option String
  stranded : Bool
  frames : List Frame
  deriving DecidableEq, Repr

namespace Composition

def fresh : Composition := ⟨.fresh, [], [], [], none, none, false, []⟩

/-- Handles that every document has. -/
def standardHandles : List (String × String) := [("!", "!"), ("!!", Tag.space)]

def addItem (nodes : List Node) (id item : Nat) : List Node :=
  nodes.modify id fun node =>
    match node.content with
    | .sequence items => { node with content := .sequence (items ++ [item]) }
    | _ => node

def addPair (nodes : List Node) (id key value : Nat) : List Node :=
  nodes.modify id fun node =>
    match node.content with
    | .mapping pairs => { node with content := .mapping (pairs ++ [(key, value)]) }
    | _ => node

def missingNode : Node := ⟨.null, .scalar ""⟩

/-- Put a node into the innermost collection. A key without a value gets one, and a pair in a flow
sequence is complete with its value. -/
def putIn (nodes : List Node) (id : Nat) : List Frame → List Node × List Frame
  | [] => (nodes, [])
  | frame :: outer =>
    match frame.kind, frame.phase with
    | .document _, _ => (nodes, { frame with id := id, phase := .between } :: outer)
    | .flowMapping, .entry =>
      (addPair (nodes ++ [missingNode]) frame.id id nodes.length, { frame with phase := .between } :: outer)
    | .flowPair, .valued key => putIn (addPair nodes frame.id key id) frame.id outer
    | _, .entry => (addItem nodes frame.id id, { frame with phase := .between } :: outer)
    | _, .keyed => (nodes, { frame with phase := .named id } :: outer)
    | _, .valued key => (addPair nodes frame.id key id, { frame with phase := .between } :: outer)
    | _, _ => (nodes, frame :: outer)

def put (composition : Composition) (id : Nat) : Composition :=
  let (nodes, frames) := putIn composition.nodes id composition.frames
  { composition with nodes := nodes, frames := frames }

/-- Make a node with the properties that wait, and tell its number. No anchor may be set twice. -/
def addNode (composition : Composition) (standard : Tag) (content : Content) :
    Except Fault (Composition × Nat) :=
  let tag := match composition.tag with
    | none => standard
    | some uri => if uri = "!" then standard else Tag.ofUri uri
  let id := composition.nodes.length
  let added := { composition with
    nodes := composition.nodes ++ [⟨tag, content⟩]
    anchor := none
    tag := none }
  match composition.anchor with
  | none => .ok (added, id)
  | some name =>
    if (composition.anchors.lookup name).isSome then .error .malformed
    else .ok ({ added with anchors := (name, id) :: composition.anchors }, id)

/-- A scalar is read by its spelling if it is plain and has no tag, or if its tag asks for that. -/
def putScalar (composition : Composition) (text : String) (plain : Bool) : Except Fault Composition :=
  let standard := if plain || composition.tag = some "!" then plainTag text else .text
  (composition.addNode standard (.scalar text)).map fun (added, id) => added.put id

def openCollection (composition : Composition) (kind : CollectionKind) (standard : Tag) (content : Content)
    (phase : Phase) : Except Fault Composition :=
  (composition.addNode standard content).map fun (added, id) =>
    { added with frames := ⟨kind, id, phase⟩ :: added.frames }

def openSequence (composition : Composition) (kind : CollectionKind) (phase : Phase) :
    Except Fault Composition :=
  composition.openCollection kind .sequence (.sequence []) phase

def openMapping (composition : Composition) (kind : CollectionKind) (phase : Phase) :
    Except Fault Composition :=
  composition.openCollection kind .mapping (.mapping []) phase

/-- The innermost collection is complete. -/
def close (composition : Composition) : Composition :=
  match composition.frames with
  | frame :: outer => { composition with frames := outer }.put frame.id
  | [] => composition

def setPhase (composition : Composition) (phase : Phase) : Composition :=
  match composition.frames with
  | frame :: outer => { composition with frames := { frame with phase := phase } :: outer }
  | [] => composition

def hasProperties (composition : Composition) : Bool := composition.anchor.isSome || composition.tag.isSome

/-- Can a token go on with a node in a collection? -/
def continuesNode (composition : Composition) (kind : CollectionKind) (token : Token) : Bool :=
  match token with
  | .anchor _ => composition.anchor.isNone
  | .tag _ => composition.tag.isNone
  | .scalar _ _ => true
  | .flowSequenceStart => true
  | .flowMappingStart => true
  | .blockSequenceStart => kind.admitsBlocks
  | .blockMappingStart => kind.admitsBlocks
  | .blockEntry => kind = .blockMapping
  | _ => false

/-- Is a node left out before a token? With properties every node may be. -/
def isMissing (composition : Composition) (frame : Frame) (token : Token) : Bool :=
  frame.phase.expectsNode &&
    (if composition.hasProperties then !composition.continuesNode frame.kind token
      else frame.allowsMissing token)

def fillNode (composition : Composition) (token : Token) : Except Fault Composition :=
  match composition.frames with
  | frame :: _ =>
    if composition.isMissing frame token then composition.putScalar "" true else .ok composition
  | [] => .ok composition

/-- Fill in the value of a key that no value follows. -/
def fillValue (composition : Composition) (token : Token) : Except Fault Composition :=
  match composition.frames with
  | frame :: _ =>
    match frame.phase with
    | .named key =>
      if token = .value then .ok composition
      else (composition.setPhase (.valued key)).putScalar "" true
    | _ => .ok composition
  | [] => .ok composition

/-- Does a token end the innermost collection without being its end? -/
def endsIndentless (composition : Composition) (token : Token) : Bool :=
  match composition.frames with
  | frame :: _ => frame.kind = .indentless && frame.phase = .between && token ≠ .blockEntry
  | [] => false

/-- Fill in what a token shows to be left out. -/
def settle (composition : Composition) (token : Token) : Except Fault Composition :=
  match composition.fillNode token >>= (·.fillValue token) with
  | .error fault => .error fault
  | .ok filled =>
    if filled.endsIndentless token then
      if filled.close.frames.length < composition.frames.length then filled.close.settle token
      else .error .malformed
    else .ok filled
termination_by composition.frames.length

/-- The effect of a directive. A document has one version, and it begins with a one. -/
def addDirective (composition : Composition) (surplus versioned : Bool) (directive : Directive) :
    Except Fault Composition :=
  match directive with
  | .version major =>
    if versioned || major ≠ 1 then .error .malformed
    else .ok { composition with stage := .prologue surplus true }
  | .handle name uri =>
    if (composition.handles.lookup name).isSome then .error .malformed
    else .ok { composition with
      stage := .prologue surplus versioned
      handles := (name, uri) :: composition.handles }
  | .reserved => .ok { composition with stage := .prologue surplus versioned }

def shift (composition : Composition) (token : Token) : Except Fault Composition :=
  match composition.frames with
  | [] => .error .malformed
  | frame :: _ =>
    let kind := frame.kind
    let phase := frame.phase
    let whereNode := fun (effect : Except Fault Composition) =>
      if phase.expectsNode then effect else .error .malformed
    let whereBlock := fun (effect : Except Fault Composition) =>
      if kind.admitsBlocks then whereNode effect else .error .malformed
    match token with
    | .anchor name => whereNode (.ok { composition with anchor := some name })
    -- a handle is looked up once the token behind the tag is known, which is the next one unless an anchor came
    -- before the tag
    | .tag written =>
      whereNode <|
        match written.handle with
        | none => .ok { composition with tag := some written.suffix }
        | some handle =>
          match (composition.handles ++ standardHandles).lookup handle with
          | some uri => .ok { composition with tag := some (uri ++ written.suffix) }
          | none =>
            if composition.anchor.isSome then .error .malformed
            else .ok { composition with tag := some written.suffix, stranded := true }
    | .reference name =>
      whereNode <|
        match composition.anchors.lookup name with
        | some id => .ok (composition.put id)
        | none => .error .malformed
    | .scalar text plain => whereNode (composition.putScalar text plain)
    | .flowSequenceStart => whereNode (composition.openSequence .flowSequence .entry)
    | .flowMappingStart => whereNode (composition.openMapping .flowMapping .entry)
    | .blockSequenceStart => whereBlock (composition.openSequence .blockSequence .between)
    | .blockMappingStart => whereBlock (composition.openMapping .blockMapping .between)
    | .blockEntry =>
      match kind, phase with
      | .blockSequence, .between => .ok (composition.setPhase .entry)
      | .indentless, .between => .ok (composition.setPhase .entry)
      | .blockMapping, _ => whereNode (composition.openSequence .indentless .entry)
      | _, _ => .error .malformed
    | .key =>
      match kind, phase with
      | .blockMapping, .between => .ok (composition.setPhase .keyed)
      | .flowMapping, .entry => .ok (composition.setPhase .keyed)
      | .flowSequence, .entry => composition.openMapping .flowPair .keyed
      | _, _ => .error .malformed
    | .value =>
      match phase with
      | .named key => .ok (composition.setPhase (.valued key))
      | _ => .error .malformed
    | .flowEntry =>
      if (kind = .flowSequence || kind = .flowMapping) && phase = .between then
        .ok (composition.setPhase .entry)
      else .error .malformed
    | .flowSequenceEnd =>
      if kind = .flowSequence && (phase = .between || phase = .entry) then .ok composition.close
      else .error .malformed
    | .flowMappingEnd =>
      if kind = .flowMapping && (phase = .between || phase = .entry) then .ok composition.close
      else .error .malformed
    | .blockEnd =>
      if (kind = .blockSequence || kind = .blockMapping) && phase = .between then .ok composition.close
      else .error .malformed
    | _ =>
      match kind, phase, token with
      | .document _, .between, .directive directive =>
        { composition with handles := [] }.addDirective true false directive
      | .document _, .between, .documentEnd => .ok composition
      | .document _, .between, .streamEnd => .ok { composition with stage := .finished }
      | _, _, _ => .error .malformed

def openDocument (composition : Composition) (explicit : Bool) : Composition :=
  { composition with stage := .document, frames := [⟨.document explicit, 0, .entry⟩] }

def step (composition : Composition) (token : Token) : Except Fault Composition :=
  match composition.stage, token with
  | .fresh, .directive directive => composition.addDirective false false directive
  | .fresh, .documentStart => .ok (composition.openDocument true)
  | .fresh, .streamEnd => .ok { composition with stage := .finished }
  | .fresh, token => (composition.openDocument false).shift token
  | .prologue surplus versioned, .directive directive => composition.addDirective surplus versioned directive
  | .prologue false _, .documentStart => .ok (composition.openDocument true)
  | .document, token =>
    if composition.stranded then .error .malformed else composition.settle token >>= (·.shift token)
  | _, _ => .error .malformed

def graph? (composition : Composition) : Option Graph :=
  match composition.frames with
  | frame :: _ => some ⟨composition.nodes, frame.id⟩
  | [] => none

end Composition

/-- The document in a text, if there is one. A text holds no more than one, and only allowed characters. -/
def Graph.ofText (text : List Char) : Except Fault (Option Graph) :=
  if !text.all isAllowed then .error .malformed
  else
    let (tokens, fault) := (Scanner.start text).run
    match tokens.foldlM Composition.step Composition.fresh, fault with
    | .error fault, _ => .error fault
    | .ok _, some fault => .error fault
    | .ok composition, none => .ok composition.graph?

end UsingCensus.Yaml
