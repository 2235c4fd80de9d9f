import UsingCensus.Census.Course
import UsingCensus.CSharp.Directive
import UsingCensus.SourceText
import UsingCensus.Tally

namespace UsingCensus

structure Harvest where
  tally : Tally
  failures : List String

namespace Harvest

def empty : Harvest := ⟨Tally.empty, []⟩

def failure (document : Path) (fault : SourceFault) : String :=
  "Failed to process document " ++ document.toString ++ ": " ++ fault.message

def add (harvest : Harvest) (document : Path) : Except SourceFault (List String) → Harvest
  | .ok names => { harvest with tally := harvest.tally.addAll names }
  | .error fault => { harvest with failures := harvest.failures ++ [failure document fault] }

def importRecord (document : Path) (names : List String) : LogRecord :=
  .of "orchestrator" .debug (document.toString ++ ": " ++ toString names.length ++ " usings")

end Harvest

namespace Surroundings

def importsOf (around : Surroundings) (document : Path) : Except SourceFault (List String) :=
  match around.readSource document with
  | .ok source => .ok (CSharp.importsOfBytes source)
  | .error fault => .error fault

end Surroundings

namespace Course

/-- Read one document unless there was a cancellation. -/
def gather (around : Surroundings) (disturbance : Option Disturbance) (harvest : Harvest)
    (document : Path) : Course Harvest := do
  checkpoint
  let yielded := around.importsOf document
  if let .ok names := yielded then
    meet disturbance .document
    log [Harvest.importRecord document names]
  return harvest.add document yielded

/-- Read all documents in order. Workers are needed only if there are any, and zero workers stand for as
many as fit. -/
def gatherAll (around : Surroundings) (disturbance : Option Disturbance) (workers : Option Int)
    (documents : List Path) : Course Harvest := do
  if documents = [] then return Harvest.empty
  if workers.any (· < 0) then throw .noWorkers
  documents.foldlM (gather around disturbance) Harvest.empty

end Course
end UsingCensus
