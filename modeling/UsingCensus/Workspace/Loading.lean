import UsingCensus.Project.Evaluation
import UsingCensus.Workspace.Solution

/-!
Workspaces: the projects that a solution or project file leads to, directly or through the references of
loaded projects, breadth first. A project is known by its absolute normalised path and looked at once.
-/
namespace UsingCensus

inductive LoadFault where
  | path (fault : PathFault)
  | project (fault : ProjectFault)
  deriving DecidableEq, Repr

def LoadFault.message : LoadFault → String
  | .path fault => fault.message
  | .project fault => fault.message

inductive LoadEvent where
  | warned (message : String)
  | declared (solution : String) (count : Nat)
  | loaded (project : Project)
  deriving DecidableEq, Repr

/-- What happened while loading, and the fault that ended it, if one did. -/
structure Loading where
  events : List LoadEvent
  fault : Option LoadFault
  deriving DecidableEq, Repr

namespace Loading

/-- Put events in front. -/
def after (events : List LoadEvent) (loading : Loading) : Loading :=
  { loading with events := events ++ loading.events }

def projects (loading : Loading) : List Project :=
  loading.events.filterMap fun
    | .loaded project => some project
    | _ => none

def warnings (loading : Loading) : List String :=
  loading.events.filterMap fun
    | .warned message => some message
    | _ => none

end Loading

def missingProject (path : Path) : String := "Project file not found: " ++ path.toString

def unreadableSolution (path : Path) (fault : PathFault) : String :=
  "Failed to read solution '" ++ path.toString ++ "': " ++ fault.message

inductive Visit where
  | loaded (project : Project) (reports : List String)
  | skipped (message : String)
  | ended (fault : LoadFault)
  deriving DecidableEq, Repr

namespace Surroundings

/-- What a project is known by. -/
def projectKey (around : Surroundings) (path : Path) : Path := (around.absolute path).normal

def visit (around : Surroundings) (path : Path) : Visit :=
  match around.probe path.toString with
  | .error fault => .ended (.path fault)
  | .ok (some (.file _)) =>
    match around.evaluate path with
    | .ok (project, reports) => .loaded project reports
    | .error fault => if fault.isLocal then .skipped fault.message else .ended (.project fault)
  | .ok _ => .skipped (missingProject path)

/-- Go through a queue up to the next project that loads; `goOn` goes on with what was seen and is left. -/
def passOver (around : Surroundings) (goOn : List Path → List Path → Loading) (seen : List Path) :
    List Path → Loading
  | [] => ⟨[], none⟩
  | path :: rest =>
    if around.projectKey path ∈ seen then around.passOver goOn seen rest
    else
      match around.visit path with
      | .ended fault => ⟨[], some fault⟩
      | .skipped message =>
        (around.passOver goOn (around.projectKey path :: seen) rest).after [.warned message]
      | .loaded project reports =>
        (goOn (around.projectKey path :: seen) (rest ++ project.references)).after
          (reports.map .warned ++ [.loaded project])

/-- Load the projects in a queue and those they lead to. Only loading a project makes the queue longer,
and `fuel` bounds how many are loaded. -/
def loadQueue (around : Surroundings) : Nat → List Path → List Path → Loading
  | 0, seen, queue => around.passOver (fun _ _ => ⟨[], none⟩) seen queue
  | fewer + 1, seen, queue => around.passOver (around.loadQueue fewer) seen queue

/-- No fewer than the projects that can be loaded: the paths to start from, and the paths that lead to a
file and are a list of at most `pathLimit` names of the tree. -/
@[irreducible] def loadBound (around : Surroundings) (start : List Path) : Nat :=
  start.length + Nat.pow (around.tree.entries.length + 1) FileTree.pathLimit

def load (around : Surroundings) (start : List Path) : Loading :=
  around.loadQueue (around.loadBound start) [] start

/-- Open a solution, by its entries that are no folders, or a single project. -/
def openWorkspace (around : Surroundings) (file : Path) : Loading :=
  if Text.lowerText file.suffix = ".sln" then
    match around.solutionEntries file with
    | .error .embeddedNull => ⟨[], some (.path .embeddedNull)⟩
    | .error (.refused cause path) =>
      (around.load []).after
        [.warned (unreadableSolution file (.refused cause path)), .declared file.name 0]
    | .ok entries =>
      let paths := (entries.filter (!·.isFolder)).map SolutionEntry.path
      (around.load paths).after [.declared file.name paths.length]
  else around.load [file]

end Surroundings
end UsingCensus
