import UsingCensus.Xml.Source
import UsingCensus.Xml.Token

namespace UsingCensus.Xml

/-- Prefixes and the namespaces they stand for, inner declarations first; the empty prefix is the
default, and an empty namespace is none. -/
abbrev Scope := List (String × String)

def xmlSpace : String := "http://www.w3.org/XML/1998/namespace"
def xmlnsSpace : String := "http://www.w3.org/2000/xmlns/"

def mayBind (name space : String) : Bool :=
  name ≠ "xmlns" && (space ≠ "" || name = "") && ((name = "xml") == (space = xmlSpace)) &&
    space ≠ xmlnsSpace && !space.toList.contains '}'

def splitPrefix (raw : String) : String × String :=
  match Text.splitAt ':' raw.toList with
  | [first, second] => (String.ofList first, String.ofList second)
  | _ => ("", raw)

def declaredPrefix? (raw : String) : Option String :=
  if raw = "xmlns" then some ""
  else match splitPrefix raw with
    | ("xmlns", name) => some name
    | _ => none

def extendScope? (scope : Scope) : List (String × String) → Option Scope
  | [] => some scope
  | (raw, value) :: rest =>
    match declaredPrefix? raw with
    | some name => if mayBind name value then extendScope? ((name, value) :: scope) rest else none
    | none => extendScope? scope rest

def spaceOf? (scope : Scope) (name : String) : Option (Option String) :=
  if name = "xml" then some (some xmlSpace)
  else match scope.find? (·.1 = name) with
    | some (_, "") => some none
    | some (_, space) => some (some space)
    | none => if name = "" then some none else none

def elementName? (scope : Scope) (raw : String) : Option Name := do
  let (first, localName) := splitPrefix raw
  return ⟨← spaceOf? scope first, localName⟩

/-- The default namespace does not apply to attributes. -/
def attributeName? (scope : Scope) (raw : String) : Option Name :=
  let (first, localName) := splitPrefix raw
  if first = "" then some ⟨none, localName⟩
  else (spaceOf? scope first).map fun space => ⟨space, localName⟩

def attributes? (scope : Scope) (raw : List (String × String)) : Option (List Attribute) := do
  let found ← (raw.filter fun pair => (declaredPrefix? pair.1).isNone).mapM fun (key, value) => do
    return Attribute.mk (← attributeName? scope key) value
  guard (found.map Attribute.name).Nodup
  return found

/-- An element that is not closed yet; its children are held in reverse. -/
structure OpenElement where
  raw : String
  name : Name
  attributes : List Attribute
  scope : Scope
  text : Chars
  children : List Element

namespace OpenElement

def close (frame : OpenElement) : Element :=
  .node frame.name frame.attributes (String.ofList frame.text) frame.children.reverse

def addChild (frame : OpenElement) (child : Element) : OpenElement :=
  { frame with children := child :: frame.children }

/-- Data after the first child is not kept. -/
def addData (frame : OpenElement) (data : Chars) : OpenElement :=
  if frame.children = [] then { frame with text := frame.text ++ data } else frame

end OpenElement

/-- Build the outermost element, given the open elements, innermost first, and the finished one. -/
def build? : List OpenElement → Option Element → List Token → Option Element
  | [], done, [] => done
  | _ :: _, _, [] => none
  | [], some _, .start _ _ :: _ => none
  | frames, done, .start raw attributes :: rest => do
    let scope ← extendScope? ((frames.head?.map OpenElement.scope).getD []) attributes
    let frame : OpenElement :=
      ⟨raw, ← elementName? scope raw, ← attributes? scope attributes, scope, [], []⟩
    build? (frame :: frames) done rest
  | [], _, .finish _ :: _ => none
  | frame :: frames, done, .finish raw :: rest =>
    if frame.raw = raw then
      match frames with
      | [] => build? [] (some frame.close) rest
      | outer :: more => build? (outer.addChild frame.close :: more) done rest
    else none
  | [], done, .data isPlain text :: rest =>
    if isPlain && text.all isSpace then build? [] done rest else none
  | frame :: frames, done, .data _ text :: rest => build? (frame.addData text :: frames) done rest

/-- What comes before the outermost element; a document type may stand there once. -/
def prolog? (standsAlone : Bool) (doctype : Option Doctype) (cs : Chars) : Option (Doctype × Chars) :=
  let inner := skipSpace cs
  let step := match literal? "<!--" inner, literal? "<?" inner, literal? "<!DOCTYPE" inner with
    | some rest, _, _ => (comment? rest).map fun after => (doctype, after)
    | _, some rest, _ => (instruction? rest).map fun after => (doctype, after)
    | _, _, some rest =>
      if doctype.isSome then none else (Xml.doctype? standsAlone rest).map fun (found, after) => (some found, after)
    | _, _, _ => none
  match step with
  | some (next, after) => if after.length < cs.length then prolog? standsAlone next after else none
  | none =>
    match inner with
    | '<' :: c :: _ => if isNameStart c then some (doctype.getD (.empty standsAlone), inner) else none
    | _ => none
termination_by cs.length

def parse (bytes : List UInt8) : Except Fault Element := do
  let (standsAlone, cs) ← characters bytes
  let found := do
    let (doctype, body) ← prolog? standsAlone none cs
    build? [] none (← tokens? doctype doctype.depth body)
  match found with
  | some element => return element
  | none => throw .malformed

end UsingCensus.Xml
