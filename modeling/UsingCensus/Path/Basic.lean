import UsingCensus.Text.Letters

/-!
Lexical paths: an anchor and the parts after it. Empty parts and `.` are dropped when a path is read,
`..` is kept until the path is normalised, and two leading slashes are told apart from one.
-/
namespace UsingCensus

inductive Anchor where
  | here
  | root
  | doubleRoot
  deriving DecidableEq, Repr

def Anchor.text : Anchor → String
  | .here => ""
  | .root => "/"
  | .doubleRoot => "//"

structure Path where
  anchor : Anchor
  parts : List String
  deriving DecidableEq, Repr

namespace Path

/-- The slash-separated pieces of a text, empty ones included. -/
def pieces (text : String) : List String :=
  (Text.splitAt '/' text.toList).map String.ofList

/-- Exactly two leading slashes are an anchor of their own. -/
def anchorOf (text : String) : Anchor :=
  match (text.toList.takeWhile (· = '/')).length with
  | 0 => .here
  | 2 => .doubleRoot
  | _ => .root

/-- A part that names something: neither empty nor the current directory. -/
def isPart (piece : String) : Bool := piece != "" && piece != "."

def ofString (text : String) : Path := ⟨anchorOf text, (pieces text).filter isPart⟩

protected def toString (path : Path) : String :=
  if path.anchor = .here ∧ path.parts = [] then "."
  else path.anchor.text ++ String.intercalate "/" path.parts

instance : ToString Path := ⟨Path.toString⟩

def isAbsolute (path : Path) : Bool := path.anchor != .here

/-- An absolute second path replaces the first. -/
def join (path next : Path) : Path :=
  if next.isAbsolute then next else ⟨path.anchor, path.parts ++ next.parts⟩

def child (path : Path) (name : String) : Path := ⟨path.anchor, path.parts ++ [name]⟩

def parent (path : Path) : Path := ⟨path.anchor, path.parts.dropLast⟩

/-- The last part, or nothing for a bare anchor. -/
def name (path : Path) : String := path.parts.getLast?.getD ""

/-- The characters before and from the last dot of a name, if it has a stem and an ending. -/
def splitName (name : String) : String × String :=
  let reversed := name.toList.reverse
  let ending := reversed.takeWhile (· ≠ '.')
  match reversed.dropWhile (· ≠ '.') with
  | _ :: stem =>
    if stem = [] ∨ ending = [] then (name, "")
    else (String.ofList stem.reverse, String.ofList ('.' :: ending.reverse))
  | [] => (name, "")

/-- The name up to its last dot; a name that starts or ends with that dot is all stem. -/
def stem (path : Path) : String := (splitName path.name).1

def suffix (path : Path) : String := (splitName path.name).2

/-- The parts below a base with the same anchor, compared part by part. -/
def relativeTo? (path base : Path) : Option Path :=
  if path.anchor = base.anchor ∧ base.parts <+: path.parts then
    some ⟨.here, path.parts.drop base.parts.length⟩
  else none

/-- The anchor's text, if any, followed by the parts: paths are compared part by part. -/
def sortKey (path : Path) : List String :=
  if path.anchor = .here then path.parts else path.anchor.text :: path.parts

def precedes (a b : Path) : Bool := !decide (b.sortKey < a.sortKey)

def sort (paths : List Path) : List Path := paths.mergeSort precedes

example : (ofString "a/..csproj").suffix = ".csproj" ∧ (ofString ".csproj").suffix = "" := by decide +kernel
example : (ofString "//a/./b//c/").toString = "//a/b/c" ∧ (ofString "").toString = "." := by decide +kernel

end Path
end UsingCensus
