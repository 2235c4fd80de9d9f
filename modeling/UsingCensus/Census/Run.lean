import UsingCensus.Census.Harvest
import UsingCensus.Selection

namespace UsingCensus

/-- `count` limits the rows, and `workers` the documents that are read at a time. -/
structure CensusOptions where
  count : Option Int
  workers : Option Int
  selection : Selection
  grammar : String
  deriving DecidableEq, Repr

structure Census where
  workItem : Path
  rows : List Row
  warnings : List String
  documents : Nat
  deriving DecidableEq, Repr

namespace Course

def targetRecord (target : Target) : LogRecord :=
  .of "orchestrator" .debug
    ("Resolved " ++ target.raw ++ " (" ++ target.kind.label ++ ") to " ++ target.resolved.toString)

def grammarRecord (grammar : Grammar) : LogRecord :=
  .of "toolchain" .debug ("Using grammar " ++ grammar.name ++ " (ABI " ++ toString grammar.version ++ ")")

def loadRecord : LoadEvent → LogRecord
  | .warned message => .of "workspace" .debug ("Workspace warning: " ++ message)
  | .declared solution count =>
    .of "workspace" .debug ("Solution " ++ solution ++ " declares " ++ toString count ++ " projects")
  | .loaded project =>
    let language := (project.language.map Language.label).getD "None"
    .of "workspace" .debug ("Loaded " ++ project.name ++ " (" ++ language ++ ", " ++
      toString project.documents.length ++ " documents)")

def exclusionRecord? : SelectionEvent → Option LogRecord
  | .excluded document => some (.of "orchestrator" .debug ("Excluded " ++ document.toString))
  | _ => none

def findGrammar (modules : List GrammarModule) (disturbance : Option Disturbance) (name : String) :
    Course Grammar := do
  if disturbance = some .interruption then throw .interrupted
  let grammar ← attempt .grammar (Grammar.locate modules name)
  log [grammarRecord grammar]
  reach disturbance .grammar
  checkpoint
  return grammar

def load (around : Surroundings) (disturbance : Option Disturbance) (file : Path) : Course Loading := do
  log [.of "orchestrator" .info ("Loading " ++ file.name)]
  let loading := around.openWorkspace file
  log (loading.events.map loadRecord)
  if let some fault := loading.fault then throw (.load fault)
  reach disturbance .workspace
  checkpoint
  return loading

def select (selection : Selection) (projects : List Project) : Course (List Path) := do
  let documents := selection.documents projects
  log ((selection.review projects).filterMap exclusionRecord?)
  log [.of "orchestrator" .info ("Walking " ++ toString documents.length ++ " syntax trees")]
  return documents

end Course

namespace Surroundings

/-- Take the census of a target. The warnings are those of loading, of selection and of reading, in this
order. -/
def census (around : Surroundings) (modules : List GrammarModule) (disturbance : Option Disturbance)
    (options : CensusOptions) (target : Target) : Course Census := do
  Course.log [Course.targetRecord target]
  Course.checkpoint
  let _ ← Course.findGrammar modules disturbance options.grammar
  let loading ← Course.load around disturbance target.resolved
  let documents ← Course.select options.selection loading.projects
  let harvest ← Course.gatherAll around disturbance options.workers documents
  Course.checkpoint
  let rows ← Course.attempt .ranking (rank options.count harvest.tally.snapshot)
  let warnings := loading.warnings ++ options.selection.warnings loading.projects ++ harvest.failures
  return ⟨target.resolved, rows, warnings, documents.length⟩

def censusAt (around : Surroundings) (modules : List GrammarModule) (disturbance : Option Disturbance)
    (options : CensusOptions) (path : String) : Course Census := do
  Course.meet disturbance .start
  let target ← Course.attempt .target (around.resolveTarget path)
  around.census modules disturbance options target

end Surroundings
end UsingCensus
