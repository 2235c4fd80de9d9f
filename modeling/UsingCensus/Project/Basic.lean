import UsingCensus.Path.Normal
import UsingCensus.FileTree.Fault
import UsingCensus.Xml.Basic

namespace UsingCensus

inductive Language where
  | csharp
  | visualBasic
  | fsharp
  deriving DecidableEq, Repr

def Language.label : Language → String
  | .csharp => "C#"
  | .visualBasic => "Visual Basic"
  | .fsharp => "F#"

def Language.of? (path : Path) : Option Language :=
  match Text.lowerText path.suffix with
  | ".csproj" => some .csharp
  | ".vbproj" => some .visualBasic
  | ".fsproj" => some .fsharp
  | _ => none

structure Project where
  path : Path
  name : String
  language : Option Language
  documents : List Path
  references : List Path
  deriving DecidableEq, Repr

inductive ProjectFault where
  | unknownLanguage (path : Path)
  | unreadable (path : Path) (cause : PathCause)
  | malformed (path : Path)
  | embeddedNull
  | encoding (fault : Xml.EncodingFault)
  deriving DecidableEq, Repr

namespace ProjectFault

/-- Faults that cost the project only; the others end the run. -/
def isLocal : ProjectFault → Bool
  | .unknownLanguage _ => true
  | .unreadable _ _ => true
  | .malformed _ => true
  | _ => false

private def failure (path : Path) (reason : String) : String :=
  "Msbuild failed when processing the file '" ++ path.toString ++ "' with message: " ++ reason

def message : ProjectFault → String
  | .unknownLanguage path =>
    "Cannot open project '" ++ path.toString ++ "' because the file extension '" ++ path.suffix ++
      "' is not associated with a language."
  | .unreadable path cause => failure path (PathFault.refused cause path.toString).message
  | .malformed path => failure path Xml.Fault.malformed.message
  | .embeddedNull => PathFault.embeddedNull.message
  | .encoding fault => fault.message

end ProjectFault
end UsingCensus
