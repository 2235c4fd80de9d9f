import UsingCensus.Session

/-!
Hosts: sessions in which modules stay imported. Importing a module writes its greeting before the results of the
run that looks for a grammar, and it does so only once.
-/
namespace UsingCensus

namespace Session

/-- The name of the grammar that a run with given arguments looks for, if it comes to that. -/
def grammarSought? (around : Surroundings) (disturbance : Option Disturbance) (arguments : CommandLine.Arguments) :
    Option String :=
  match around.resolveTarget arguments.path with
  | .error _ => none
  | .ok target =>
    match configuration around arguments target with
    | .error _ => none
    | .ok configuration => if disturbance = some .interruption then none else some configuration.grammar

def sought? (session : Session) (disturbance : Option Disturbance) (words : List String) : Option String :=
  match CommandLine.read words with
  | .ok (.run arguments) =>
    match Log.configure ⟨arguments.verbose, arguments.noWarn, arguments.logFile⟩ session.around with
    | (_, around, none) => grammarSought? around disturbance arguments
    | _ => none
  | _ => none

end Session

structure Host where
  session : Session
  imported : List String

namespace Host

def start (around : Surroundings) : Host := ⟨Session.start around, []⟩

/-- What the search for a grammar imports in a run, if there is one. -/
def importing (host : Host) (modules : List GrammarModule) (disturbance : Option Disturbance)
    (words : List String) : Grammar.Importing :=
  match host.session.sought? disturbance words with
  | none => ⟨"", host.imported⟩
  | some name => Grammar.importing modules host.imported name

def run (host : Host) (modules : List GrammarModule) (disturbance : Option Disturbance)
    (stamp : String) (words : List String) : Host × Outcome :=
  let importing := host.importing modules disturbance words
  let (session, outcome) := host.session.run modules disturbance stamp words
  (⟨session, importing.imported⟩, { outcome with out := importing.text ++ outcome.out })

def runAll (host : Host) (modules : List GrammarModule) (disturbance : Option Disturbance)
    (stamp : String) : List (List String) → Host × List Outcome
  | [] => (host, [])
  | words :: rest =>
    let (next, outcome) := host.run modules disturbance stamp words
    let (final, outcomes) := next.runAll modules disturbance stamp rest
    (final, outcome :: outcomes)

end Host
end UsingCensus
