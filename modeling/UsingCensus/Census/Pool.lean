import UsingCensus.Census.Harvest

/-!
Pools: documents read by several workers at a time. A controller hands the documents out in their order and
collects what became of them; with four documents out for each worker it waits until one is finished.
Workers take up documents in any order. A pool moves by events, and an event that cannot come leads nowhere.
-/
namespace UsingCensus

/-- How the work on a document ended. -/
inductive TaskResult where
  | counted
  | failed (message : String)
  | cancelled
  deriving DecidableEq, Repr

/-- How far the work on a document has come. Work that returned holds its worker until it has ended. -/
inductive TaskStage where
  | queued
  | started
  | cleared
  | held (source : List UInt8)
  | parsed (names : List String)
  | returned (result : TaskResult)
  | ended (result : TaskResult)
  deriving DecidableEq, Repr

/-- The steps of the work on a document. -/
inductive TaskStep where
  | start
  | clear
  | read
  | parse
  | merge
  | finish
  deriving DecidableEq, Repr

namespace TaskStage

def isRunning : TaskStage → Bool
  | queued => false
  | ended _ => false
  | _ => true

def hasEnded : TaskStage → Bool
  | ended _ => true
  | _ => false

/-- Take a step. Each stage but the last has one step that can be taken. -/
def advance (around : Surroundings) (document : Path) (cancelled : Bool) :
    TaskStep → TaskStage → Option TaskStage
  | .start, queued => some started
  | .clear, started => some (if cancelled then returned .cancelled else cleared)
  | .read, cleared =>
    match around.readSource document with
    | .ok source => some (held source)
    | .error fault => some (returned (.failed (Harvest.failure document fault)))
  | .parse, held source => some (parsed (CSharp.importsOfBytes source))
  | .merge, parsed _ => some (returned .counted)
  | .finish, returned result => some (ended result)
  | _, _ => none

def merged : TaskStep → TaskStage → List String
  | .merge, parsed names => names
  | _, _ => []

end TaskStage

inductive Control where
  /-- Is there another document, and no cancellation? -/
  | looking
  /-- The next document may be handed out, if there is room. -/
  | admitting
  /-- Collecting what a wait found finished. -/
  | collecting (finished : List Nat)
  /-- All documents are handed out, and are collected as they finish. -/
  | draining
  | stopping
  | closing
  | returned
  | raised
  deriving DecidableEq, Repr

namespace Control

/-- Can a fault still end the controller's work? -/
def isWorking : Control → Bool
  | looking => true
  | admitting => true
  | collecting _ => true
  | draining => true
  | _ => false

end Control

/-- Documents are known by their positions. -/
structure Pool where
  control : Control
  submitted : Nat
  tasks : List (Nat × TaskStage)
  failures : List (Nat × String)
  harvest : Harvest
  cancelled : Bool

inductive PoolEvent where
  | look
  | wait (finished : List Nat)
  | submit
  | collect (position : Nat)
  | drain
  | leave
  | dismiss
  | raise
  | work (position : Nat) (step : TaskStep)
  | cancel
  | interrupt
  deriving DecidableEq, Repr

namespace Pool

/-- How many documents may be out for each worker. -/
def depth : Nat := 4

/-- Without documents there is nothing to do. -/
def start (documents : List Path) (harvest : Harvest) : Pool where
  control := if documents = [] then .returned else .looking
  submitted := 0
  tasks := []
  failures := []
  harvest := harvest
  cancelled := false

def running (pool : Pool) : Nat := pool.tasks.countP fun task => task.2.isRunning

def hasFinished (pool : Pool) (position : Nat) : Bool :=
  pool.tasks.any fun task => task.1 = position && task.2.hasEnded

def setStage (position : Nat) (stage : TaskStage) (tasks : List (Nat × TaskStage)) :
    List (Nat × TaskStage) :=
  tasks.map fun task => if task.1 = position then (position, stage) else task

def withoutTask (position : Nat) (tasks : List (Nat × TaskStage)) : List (Nat × TaskStage) :=
  tasks.filter fun task => task.1 ≠ position

/-- A fault in the controller's work cancels the rest. -/
def stop (pool : Pool) : Pool := { pool with control := .stopping, cancelled := true }

def submit (pool : Pool) : Pool :=
  { pool with
    control := .looking
    submitted := pool.submitted + 1
    tasks := pool.tasks ++ [(pool.submitted, .queued)] }

/-- Take a finished document back and go on. -/
def collect (pool : Pool) (position : Nat) (control : Control) : Option Pool :=
  match pool.tasks.lookup position with
  | some (.ended .counted) =>
    some { pool with control := control, tasks := withoutTask position pool.tasks }
  | some (.ended (.failed message)) =>
    some { pool with
      control := control
      tasks := withoutTask position pool.tasks
      failures := pool.failures ++ [(position, message)] }
  | some (.ended .cancelled) => some pool.stop
  | _ => none

/-- The failures in the order of the documents. -/
def orderedFailures (pool : Pool) : List String :=
  (pool.failures.mergeSort fun a b => a.1 ≤ b.1).map Prod.snd

/-- Tell the failures when all is collected. -/
def leave (pool : Pool) : Pool :=
  { pool with
    control := .returned
    harvest := { pool.harvest with failures := pool.harvest.failures ++ pool.orderedFailures } }

/-- Documents that no worker has taken up are given up. -/
def dismiss (pool : Pool) : Pool :=
  { pool with
    control := .closing
    tasks := pool.tasks.map fun task => if task.2 = .queued then (task.1, .ended .cancelled) else task }

/-- A worker takes a step. Merging changes the counts at once. -/
def work (around : Surroundings) (documents : List Path) (pool : Pool) (position : Nat)
    (step : TaskStep) : Option Pool :=
  match pool.tasks.lookup position, documents[position]? with
  | some stage, some document =>
    (stage.advance around document pool.cancelled step).map fun next =>
      { pool with
        tasks := setStage position next pool.tasks
        harvest := { pool.harvest with
          tally := pool.harvest.tally.addAll (TaskStage.merged step stage) } }
  | _, _ => none

def step (around : Surroundings) (documents : List Path) (workers : Nat) (pool : Pool)
    (event : PoolEvent) : Option Pool :=
  match event, pool.control with
  | .look, .looking =>
    if pool.submitted < documents.length then
      some (if pool.cancelled then pool.stop else { pool with control := .admitting })
    else none
  | .wait finished, .admitting =>
    if depth * workers ≤ pool.tasks.length ∧ finished ≠ [] ∧ finished.Nodup ∧
        finished.all pool.hasFinished then
      some { pool with control := .collecting finished }
    else none
  | .submit, .admitting => if pool.tasks.length < depth * workers then some pool.submit else none
  | .submit, .collecting [] => some pool.submit
  | .collect position, .collecting (first :: rest) =>
    if position = first then pool.collect position (.collecting rest) else none
  | .collect position, .draining => pool.collect position .draining
  | .drain, .looking =>
    if pool.submitted = documents.length then some { pool with control := .draining } else none
  | .leave, .draining => if pool.tasks = [] then some pool.leave else none
  | .dismiss, .stopping => some pool.dismiss
  | .raise, .closing => if pool.running = 0 then some { pool with control := .raised } else none
  | .work position .start, _ =>
    if pool.running < workers then pool.work around documents position .start else none
  | .work position step, _ => pool.work around documents position step
  | .cancel, _ => some { pool with cancelled := true }
  | .interrupt, control => if control.isWorking then some pool.stop else none
  | _, _ => none

def run (around : Surroundings) (documents : List Path) (workers : Nat) (harvest : Harvest)
    (trace : List PoolEvent) : Option Pool :=
  trace.foldlM (step around documents workers) (start documents harvest)

end Pool
end UsingCensus
