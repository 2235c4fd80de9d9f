import UsingCensus.Census.Run
import UsingCensus.CommandLine.Help
import UsingCensus.CommandLine.Reading
import UsingCensus.Configuration
import UsingCensus.Report

/-!
Sessions: command lines run one after the other in one place. Each run ends with a status and what it wrote;
only the log and what was appended to log files outlive it. Faults are looked for in a fixed order, and a
faulty run writes no results.
-/
namespace UsingCensus

/-- How a run ends by itself. -/
inductive ExitStatus where
  | success
  | pathNotFound
  | usage
  | pathInvalid
  | workItemNotFound
  | grammarNotFound
  | configurationInvalid
  | cancelled
  deriving DecidableEq, Repr

def ExitStatus.code : ExitStatus → Nat
  | success => 0
  | pathNotFound => 1
  | usage => 2
  | pathInvalid => 3
  | workItemNotFound => 4
  | grammarNotFound => 5
  | configurationInvalid => 6
  | cancelled => 130

def TargetFault.status? : TargetFault → Option ExitStatus
  | pathNotFound => some .pathNotFound
  | invalidPath => some .pathInvalid
  | workItemNotFound => some .workItemNotFound
  | unresolved _ => none

def ConfigurationFault.status? (fault : ConfigurationFault) : Option ExitStatus :=
  if fault.isReported then some .configurationInvalid else none

def CensusFault.status? : CensusFault → Option ExitStatus
  | target fault => fault.status?
  | grammar fault => if fault.isReported then some .grammarNotFound else none
  | cancelled => some .cancelled
  | interrupted => some .cancelled
  | _ => none

/-- A fault that no part of the program takes up. -/
inductive Crash where
  | log (fault : PathFault)
  | target (fault : TargetFault)
  | configuration (fault : ConfigurationFault)
  | census (fault : CensusFault)
  deriving DecidableEq, Repr

def Crash.message : Crash → String
  | log fault => fault.message
  | target fault => fault.message
  | configuration fault => fault.message
  | census fault => fault.message

inductive Ending where
  | exit (status : ExitStatus)
  | crash (fault : Crash)
  deriving DecidableEq, Repr

/-- A run that has ended, with what it wrote to the streams for results and for errors. -/
structure Outcome where
  ending : Ending
  out : String
  err : String
  deriving DecidableEq, Repr

namespace Outcome

/-- A run that tells a fault, or crashes with it. -/
def failed (status : Option ExitStatus) (crash : Crash) (complaint : String) : Outcome :=
  match status with
  | some status => ⟨.exit status, "", complaint⟩
  | none => ⟨.crash crash, "", ""⟩

def afterErrors (text : String) (outcome : Outcome) : Outcome := { outcome with err := text ++ outcome.err }

end Outcome

structure Session where
  around : Surroundings
  log : Log

namespace Session

def start (around : Surroundings) : Session := ⟨around, Log.initial⟩

/-- The configuration of a run: the file that was named, else the one next to the target. -/
def configuration (around : Surroundings) (arguments : CommandLine.Arguments) (target : Target) :
    Except ConfigurationFault Configuration :=
  match arguments.config.filter (· ≠ "") with
  | some file => around.configuration (Path.ofString file) true
  | none =>
    let raw := Path.ofString target.raw
    around.configuration (if target.kind = .directory then raw else raw.parent) false

/-- Arguments win over the configuration. -/
def options (arguments : CommandLine.Arguments) (configuration : Configuration) : CensusOptions where
  count := (arguments.count <|> configuration.count).map Int.ofNat
  workers := (arguments.maxWorkers <|> configuration.maxWorkers).map Int.ofNat
  selection := ⟨configuration.generatedFiles, configuration.excludePaths, some configuration.root⟩
  grammar := configuration.grammar

def closingRecords : Except CensusFault Census → List LogRecord
  | .ok census =>
    [.of "cli" .debug ("Reporting " ++ toString census.rows.length ++ " namespaces from " ++
      toString census.documents ++ " documents of " ++ census.workItem.toString)]
  | .error .interrupted => []
  | .error fault => if fault.status?.isSome then [.of "cli" .debug "Run aborted"] else []

def conclude (showWarnings : Bool) : Except CensusFault Census → Outcome
  | .ok census =>
    let report := Report.make census.rows census.warnings showWarnings
    ⟨.exit .success, report.out, report.err⟩
  | .error fault => .failed fault.status? (.census fault) (fault.message ++ "\n")

def perform (around : Surroundings) (modules : List GrammarModule) (disturbance : Option Disturbance)
    (arguments : CommandLine.Arguments) : List LogRecord × Outcome :=
  match around.resolveTarget arguments.path with
  | .error fault => ([], .failed fault.status? (.target fault) (fault.message ++ "\n"))
  | .ok target =>
    match configuration around arguments target with
    | .error fault =>
      ([], .failed fault.status? (.configuration fault) (fault.message ++ ". Cannot continue.\n"))
    | .ok configuration =>
      let (result, progress) :=
        (around.census modules disturbance (options arguments configuration) target).follow
      (progress.records ++ closingRecords result,
        conclude (!(arguments.noWarn || configuration.noWarn)) result)

def runArguments (session : Session) (modules : List GrammarModule) (disturbance : Option Disturbance)
    (stamp : String) (arguments : CommandLine.Arguments) : Session × Outcome :=
  match Log.configure ⟨arguments.verbose, arguments.noWarn, arguments.logFile⟩ session.around with
  | (log, around, some fault) => (⟨around, log⟩, ⟨.crash (.log fault), "", ""⟩)
  | (log, around, none) =>
    let (records, outcome) := perform around modules disturbance arguments
    (⟨{ around with tree := log.storeAll stamp around.tree records }, log⟩,
      outcome.afterErrors (log.streamTexts records))

def run (session : Session) (modules : List GrammarModule) (disturbance : Option Disturbance)
    (stamp : String) (words : List String) : Session × Outcome :=
  match CommandLine.read words with
  | .error fault => (session, ⟨.exit .usage, "", CommandLine.complaint fault⟩)
  | .ok .help => (session, ⟨.exit .success, CommandLine.help, ""⟩)
  | .ok (.run arguments) => session.runArguments modules disturbance stamp arguments

def runAll (session : Session) (modules : List GrammarModule) (disturbance : Option Disturbance)
    (stamp : String) : List (List String) → Session × List Outcome
  | [] => (session, [])
  | words :: rest =>
    let (next, outcome) := session.run modules disturbance stamp words
    let (final, outcomes) := next.runAll modules disturbance stamp rest
    (final, outcome :: outcomes)

end Session
end UsingCensus
