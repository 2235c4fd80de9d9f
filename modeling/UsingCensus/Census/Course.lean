import UsingCensus.Grammar
import UsingCensus.Log
import UsingCensus.Ranking
import UsingCensus.Target
import UsingCensus.Workspace.Loading

/-!
Courses: steps of a census that log, note the moments that have come and may end in a fault. A cancellation
that comes in with a moment is noticed at the next checkpoint.
-/
namespace UsingCensus

/-- Moments at which a cancellation may come in: before everything, after the grammar was found, after the
workspace was loaded, and when a document was read. -/
inductive Moment where
  | start
  | grammar
  | workspace
  | document
  deriving DecidableEq, Repr

/-- What comes in from outside: a cancellation, or an interruption that ends the search for the grammar at
once. -/
inductive Disturbance where
  | cancellation (moment : Moment)
  | interruption
  deriving DecidableEq, Repr

inductive CensusFault where
  | target (fault : TargetFault)
  | grammar (fault : GrammarFault)
  | load (fault : LoadFault)
  | noWorkers
  | ranking (fault : RankingFault)
  | cancelled
  | interrupted
  deriving DecidableEq, Repr

def CensusFault.message : CensusFault → String
  | target fault => fault.message
  | grammar fault => fault.message
  | load fault => fault.message
  | noWorkers => "max_workers must be greater than 0"
  | ranking fault => fault.message
  | cancelled => "Operation cancelled."
  | interrupted => "Operation cancelled."

/-- How far a census has come. -/
structure Progress where
  records : List LogRecord
  moments : List Moment
  cancelled : Bool
  deriving DecidableEq, Repr

def Progress.start : Progress := ⟨[], [], false⟩

abbrev Course := ExceptT CensusFault (StateM Progress)

namespace Course

/-- Take all steps. What was logged before a fault stays logged. -/
def follow (course : Course α) : Except CensusFault α × Progress := course.run.run Progress.start

def log (records : List LogRecord) : Course Unit :=
  modify fun progress => { progress with records := progress.records ++ records }

/-- Note that a moment has come, and the cancellation that comes with it. -/
def reach (disturbance : Option Disturbance) (moment : Moment) : Course Unit :=
  modify fun progress =>
    { progress with
      moments := progress.moments ++ [moment]
      cancelled := progress.cancelled || disturbance = some (.cancellation moment) }

/-- Note a moment that matters only if the cancellation comes with it. -/
def meet (disturbance : Option Disturbance) (moment : Moment) : Course Unit :=
  if disturbance = some (.cancellation moment) then reach disturbance moment else pure ()

/-- Go on unless there was a cancellation. -/
def checkpoint : Course Unit := do
  if (← get).cancelled then throw .cancelled

/-- Go on with a value, or end with what the fault is a cause of. -/
def attempt (cause : ε → CensusFault) : Except ε α → Course α
  | .ok value => pure value
  | .error fault => throw (cause fault)

end Course
end UsingCensus
