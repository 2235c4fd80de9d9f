import UsingCensus.Census.Pool
import UsingCensus.Census.Run

/-!
Tours: censuses that several workers take, step by step, with a cancellation coming in at any moment. After
each phase but the last a tour checks whether it was cancelled, and the documents are read by a pool. A tour
moves by events, and an event that cannot come leads nowhere.
-/
namespace UsingCensus

/-- What a census is asked for: a path, or a target that was resolved before. -/
inductive Commission where
  | path (text : String)
  | target (given : Target)
  deriving DecidableEq, Repr

def Commission.census (commission : Commission) (around : Surroundings) (modules : List GrammarModule)
    (disturbance : Option Disturbance) (options : CensusOptions) : Course Census :=
  match commission with
  | path text => around.censusAt modules disturbance options text
  | target given => do
    Course.meet disturbance .start
    around.census modules disturbance options given

/-- How many workers read at a time; `fitting` is how many fit. -/
def CensusOptions.crew (options : CensusOptions) (fitting : Nat) : Nat :=
  match options.workers with
  | some workers => if 0 < workers then workers.toNat else fitting
  | none => fitting

/-- What the phases come to, one after the other. -/
inductive Milestone where
  | called (path : String)
  | target (goal : Target)
  | grammar (goal : Target)
  | workspace (goal : Target) (loading : Loading)
  | harvest (goal : Target) (loading : Loading) (documents : List Path) (yielded : Harvest)

structure ReadingRoom where
  goal : Target
  loading : Loading
  documents : List Path
  pool : Pool

inductive TourStage where
  /-- A check for a cancellation comes next. -/
  | arrived (milestone : Milestone)
  /-- The next phase may begin. -/
  | cleared (milestone : Milestone)
  | reading (room : ReadingRoom)
  | ended (result : Except CensusFault Census)

/-- Nothing is checked before a path is resolved. -/
def Commission.stage : Commission → TourStage
  | path text => .cleared (.called text)
  | target given => .arrived (.target given)

namespace Milestone

/-- The end of a census whose documents are read. -/
def conclude (options : CensusOptions) (goal : Target) (loading : Loading) (documents : List Path)
    (yielded : Harvest) : Except CensusFault Census :=
  match rank options.count yielded.tally.snapshot with
  | .ok rows =>
    .ok ⟨goal.resolved, rows,
      loading.warnings ++ options.selection.warnings loading.projects ++ yielded.failures, documents.length⟩
  | .error fault => .error (.ranking fault)

def proceed (around : Surroundings) (modules : List GrammarModule) (options : CensusOptions) :
    Milestone → TourStage
  | called path =>
    match around.resolveTarget path with
    | .ok goal => .arrived (.target goal)
    | .error fault => .ended (.error (.target fault))
  | target goal =>
    match Grammar.locate modules options.grammar with
    | .ok _ => .arrived (.grammar goal)
    | .error fault => .ended (.error (.grammar fault))
  | grammar goal =>
    let loading := around.openWorkspace goal.resolved
    match loading.fault with
    | none => .arrived (.workspace goal loading)
    | some fault => .ended (.error (.load fault))
  | workspace goal loading =>
    let documents := options.selection.documents loading.projects
    if documents ≠ [] ∧ options.workers.any (· < 0) then .ended (.error .noWorkers)
    else .reading ⟨goal, loading, documents, Pool.start documents Harvest.empty⟩
  | harvest goal loading documents yielded => .ended (conclude options goal loading documents yielded)

end Milestone

structure Tour where
  stage : TourStage
  cancelled : Bool
  interrupted : Bool

inductive TourEvent where
  | check
  | proceed
  | read (event : PoolEvent)
  | gather
  | cancel
  | interrupt
  deriving DecidableEq, Repr

namespace Tour

def start (commission : Commission) : Tour := ⟨commission.stage, false, false⟩

/-- Leave the reading room once its pool has come to an end. -/
def gather (tour : Tour) (room : ReadingRoom) : Option Tour :=
  match room.pool.control with
  | .returned =>
    some { tour with
      stage := .arrived (.harvest room.goal room.loading room.documents room.pool.harvest) }
  | .raised =>
    some { tour with stage := .ended (.error (if tour.interrupted then .interrupted else .cancelled)) }
  | _ => none

/-- What an event leads to, if it can come. The pool sees the cancellation of the tour. -/
def step (around : Surroundings) (modules : List GrammarModule) (options : CensusOptions) (fitting : Nat)
    (tour : Tour) (event : TourEvent) : Option Tour :=
  match event, tour.stage with
  | .check, .arrived milestone =>
    some { tour with
      stage := if tour.cancelled then .ended (.error .cancelled) else .cleared milestone }
  | .proceed, .cleared milestone => some { tour with stage := milestone.proceed around modules options }
  | .read event, .reading room =>
    (Pool.step around room.documents (options.crew fitting) { room.pool with cancelled := tour.cancelled }
      event).map fun pool =>
        ⟨.reading { room with pool := pool }, pool.cancelled,
          tour.interrupted || event = .interrupt⟩
  | .gather, .reading room => tour.gather room
  | .cancel, _ => some { tour with cancelled := true }
  | .interrupt, .cleared (.target _) => some ⟨.ended (.error .interrupted), tour.cancelled, true⟩
  | _, _ => none

def run (around : Surroundings) (modules : List GrammarModule) (options : CensusOptions) (fitting : Nat)
    (commission : Commission) (trace : List TourEvent) : Option Tour :=
  trace.foldlM (step around modules options fitting) (start commission)

end Tour
end UsingCensus
