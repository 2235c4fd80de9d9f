namespace UsingCensus.Xml

structure Name where
  space : Option String
  localName : String
  deriving DecidableEq, Repr

structure Attribute where
  name : Name
  value : String
  deriving DecidableEq, Repr

inductive Element where
  | node (name : Name) (attributes : List Attribute) (text : String) (children : List Element)

namespace Element

def name : Element → Name
  | .node name _ _ _ => name

def attributes : Element → List Attribute
  | .node _ attributes _ _ => attributes

def text : Element → String
  | .node _ _ text _ => text

def children : Element → List Element
  | .node _ _ _ children => children

def attribute? (element : Element) (localName : String) : Option String :=
  (element.attributes.find? fun a => a.name = ⟨none, localName⟩).map Attribute.value

mutual

def all : Element → List Element
  | .node name attributes text children => .node name attributes text children :: allIn children

def allIn : List Element → List Element
  | [] => []
  | element :: rest => element.all ++ allIn rest

end

def named (element : Element) (name : Name) : List Element := element.all.filter (·.name = name)

end Element

inductive EncodingFault where
  | unknown (name : String)
  | notText (name : String)
  | multiByte
  | strict (name reason : String)
  | undecodable (position : Nat)
  deriving DecidableEq, Repr

def EncodingFault.message : EncodingFault → String
  | .unknown name => "unknown encoding: " ++ name
  | .notText name =>
    "'" ++ name ++ "' is not a text encoding; use codecs.decode() to handle arbitrary codecs"
  | .multiByte => "multi-byte encodings are not supported"
  | .strict name reason => "decoding with '" ++ name ++ "' codec failed (UnicodeError: " ++ reason ++ ")"
  | .undecodable position =>
    "'ascii' codec can't decode byte 0x80 in position " ++ toString position ++ ": ordinal not in range(128)"

inductive Fault where
  | malformed
  | encoding (fault : EncodingFault)
  deriving DecidableEq, Repr

/-- The reader keeps no record of what is malformed; `<xml>` stands for it. -/
def Fault.message : Fault → String
  | .malformed => "<xml>"
  | .encoding fault => fault.message

end UsingCensus.Xml
