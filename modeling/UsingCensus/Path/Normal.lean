import UsingCensus.Path.Basic

namespace UsingCensus.Path

/-- One part pushed on the normal parts before it, which are held in reverse. -/
def pushPart (anchored : Bool) (done : List String) (part : String) : List String :=
  if part = ".." then
    match done with
    | [] => if anchored then [] else [".."]
    | last :: before => if last = ".." then ".." :: done else before
  else part :: done

def normalParts (anchored : Bool) (parts : List String) : List String :=
  (parts.foldl (pushPart anchored) []).reverse

def normal (path : Path) : Path := ⟨path.anchor, normalParts path.isAbsolute path.parts⟩

def locate (directory : Path) (text : String) : Path := (directory.join (ofString text)).normal

example : (ofString "/../a/b/../../..").normal = ⟨.root, []⟩ := by decide +kernel
example : (ofString "../a/../..").normal = ⟨.here, ["..", ".."]⟩ := by decide +kernel

end UsingCensus.Path
