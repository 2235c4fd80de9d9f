import UsingCensus.FileTree.Walk
import UsingCensus.Wildcard.Parser

/-!
Patterns over paths. A pattern is matched part by part; a part that is exactly `**` stands for any number
of directories. Names that start with a dot are met only by parts that start with one. Links are
followed. A path may be found more than once.
-/
namespace UsingCensus

namespace Wildcard

def isPattern (text : String) : Bool := text.toList.any fun c => c = '*' || c = '?' || c = '['

def below (directory name : String) : String :=
  if directory = "" then name
  else if name = "" && Text.endsIn directory "/" then directory
  else if Text.endsIn directory "/" then directory ++ name
  else directory ++ "/" ++ name

def isHidden (name : String) : Bool := Text.startsIn name "."

end Wildcard

namespace Surroundings

open Wildcard

/-- The names in a directory, or in the current one; perhaps only those that lead to directories. -/
def namesAt (around : Surroundings) (foldersOnly : Bool) (directory : String) : List String :=
  let place := if directory = "" then "." else directory
  match around.list place with
  | .error _ => []
  | .ok names => names.filter fun name => !foldersOnly || around.isDirectory (below place name)

/-- Everything below a directory but hidden names and what lies under them, as relative paths. -/
def descend (around : Surroundings) (foldersOnly : Bool) : Nat → String → List String
  | 0, _ => []
  | fuel + 1, directory =>
    ((around.namesAt foldersOnly directory).filter (!isHidden ·)).flatMap fun name =>
      name :: (around.descend foldersOnly fuel (below directory name)).map (below name)

/-- What one part of a pattern finds in a directory. No path is longer than `pathLimit`, which bounds the
descent. -/
def findPart (around : Surroundings) (foldersOnly : Bool) (directory part : String) : List String :=
  if part = "**" then "" :: around.descend foldersOnly FileTree.pathLimit directory
  else if isPattern part then
    (around.namesAt foldersOnly directory).filter fun name =>
      (isHidden part || !isHidden name) && covers part name
  else if part = "" then if around.isDirectory directory then [""] else []
  else if around.hasEntry (below directory part) then [part]
  else []

def findParts (around : Surroundings) (directory : String) : List String → List String
  | [] => [directory]
  | part :: rest =>
    (around.findPart (!rest.isEmpty) directory part).flatMap fun name =>
      around.findParts (below directory name) rest

end Surroundings

namespace Wildcard

/-- Cut a pattern before the first part that holds a wildcard. The text before it is a plain path. -/
def splitPattern (pattern : String) : String × List String :=
  let pieces := Path.pieces pattern
  let plain := pieces.takeWhile (!isPattern ·)
  let rest := pieces.drop plain.length
  let base := String.intercalate "/" plain
  let kept := String.ofList (base.toList.reverse.dropWhile (· = '/')).reverse
  let start := if kept = "" ∧ plain ≠ [] then base ++ "/" else kept
  (start, rest.filter (· ≠ "") ++ if rest.getLast? = some "" then [""] else [])

end Wildcard

/-- The paths that a pattern with a wildcard finds, in code point order. -/
def Surroundings.expand (around : Surroundings) (pattern : String) : List String :=
  let (start, parts) := Wildcard.splitPattern pattern
  sortNames (around.findParts start parts)

example : Wildcard.splitPattern "/a//b/*//c/**/" = ("/a//b", ["*", "c", "**", ""]) := by decide +kernel
example : Wildcard.splitPattern "/*.cs" = ("/", ["*.cs"]) := by decide +kernel

end UsingCensus
