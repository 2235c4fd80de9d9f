import UsingCensus.FileTree.Canonical
import UsingCensus.FileTree.Walk

namespace UsingCensus

inductive TargetKind where
  | file
  | directory
  deriving DecidableEq, Repr

def TargetKind.label : TargetKind → String
  | .file => "file"
  | .directory => "directory"

structure Target where
  raw : String
  resolved : Path
  kind : TargetKind
  deriving DecidableEq, Repr

inductive TargetFault where
  | pathNotFound
  | invalidPath
  | workItemNotFound
  | unresolved (fault : CanonicalFault)
  deriving DecidableEq, Repr

def TargetFault.message : TargetFault → String
  | .pathNotFound => "File or folder do not exist. Cannot continue."
  | .invalidPath => "File or folder not valid. Cannot continue."
  | .workItemNotFound =>
    "Unable to locate any .sln or MSBuild project file (such as .csproj). Cannot continue."
  | .unresolved fault => fault.message

namespace Target

/-- The endings of files that can be opened, in order of preference. -/
def endings : List String := [".sln", ".csproj"]

def hasEnding (ending text : String) : Bool := Text.endsIn (Text.lowerText text) ending

def isDescriptor (text : String) : Bool := endings.any fun ending => hasEnding ending text

def excludedFolders : List String := ["bin", "obj", "node_modules", "packages", "TestResults"]

def entersFolder (_depth : Nat) (name : String) : Bool :=
  !excludedFolders.contains name && !Text.startsIn name "."

end Target

namespace Surroundings

open Target

def pathExists (around : Surroundings) (text : String) : Bool :=
  around.isDirectory text || around.isFile text

def isValidPath (around : Surroundings) (text : String) : Bool :=
  around.isDirectory text || isDescriptor text

/-- The first file below a directory with the ending that is preferred most. -/
def firstDescriptor? (around : Surroundings) (directory : Path) : Option Path :=
  let files := around.walk Target.entersFolder directory
  endings.findSome? fun ending => files.find? fun path => hasEnding ending path.name

/-- The file that a path stands for: itself if it is spelled like one, else the best in the directory. -/
def locateDescriptor (around : Surroundings) (text : String) : Except CanonicalFault (Option Path) :=
  if isDescriptor text then .ok (some (Path.ofString text))
  else if text.toList.contains '\x00' then .error .embeddedNull
  else .ok (around.firstDescriptor? (Path.ofString text))

def resolveTarget (around : Surroundings) (text : String) : Except TargetFault Target :=
  if !around.pathExists text then .error .pathNotFound
  else if !around.isValidPath text then .error .invalidPath
  else
    match around.locateDescriptor text with
    | .error fault => .error (.unresolved fault)
    | .ok none => .error .workItemNotFound
    | .ok (some located) =>
      match around.expandHome located >>= around.canonical with
      | .error fault => .error (.unresolved fault)
      | .ok resolved => .ok ⟨text, resolved, if around.isDirectory text then .directory else .file⟩

end Surroundings
end UsingCensus
