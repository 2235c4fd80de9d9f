import UsingCensus.Project.Basic
import UsingCensus.Wildcard.Parser

namespace UsingCensus

structure Selection where
  generatedFiles : List String
  excludePaths : List String
  excludeRoot : Option Path
  deriving DecidableEq, Repr

namespace Selection

/-- A pattern with forward slashes only and none in front. -/
def normalPattern (pattern : String) : String :=
  String.ofList ((pattern.toList.map fun c => if c = '\\' then '/' else c).dropWhile (· = '/'))

/-- A pattern with a slash at its end is a folder, any other is met by the whole path. -/
def covers (pattern relative : String) : Bool :=
  let pattern := normalPattern pattern
  if Text.endsIn pattern "/" then Text.startsIn relative pattern else Wildcard.covers pattern relative

def isGenerated (selection : Selection) (document : Path) : Bool :=
  selection.generatedFiles.any (Text.endsIn document.name)

def isExcluded (selection : Selection) (document : Path) : Bool :=
  match selection.excludeRoot.bind document.relativeTo? with
  | none => false
  | some relative => selection.excludePaths.any fun pattern => covers pattern relative.toString

end Selection

/-- What becomes of a project that is passed over or of a document. -/
inductive SelectionEvent where
  | skipped (project : Path)
  | excluded (document : Path)
  | selected (document : Path)
  deriving DecidableEq, Repr

namespace Selection

/-- Look at one document; generated ones are passed over in silence. -/
def judge (selection : Selection) (document : Path) : Option SelectionEvent :=
  if selection.isGenerated document then none
  else if selection.isExcluded document then some (.excluded document)
  else some (.selected document)

def review (selection : Selection) (projects : List Project) : List SelectionEvent :=
  projects.flatMap fun project =>
    if project.language = some .csharp then project.documents.filterMap selection.judge
    else [.skipped project.path]

def documents (selection : Selection) (projects : List Project) : List Path :=
  (selection.review projects).filterMap fun
    | .selected document => some document
    | _ => none

def skippedProject (path : Path) : String := "Skipping non-C# project: " ++ path.toString

def warnings (selection : Selection) (projects : List Project) : List String :=
  (selection.review projects).filterMap fun
    | .skipped project => some (skippedProject project)
    | _ => none

end Selection
end UsingCensus
