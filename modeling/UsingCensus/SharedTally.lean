import UsingCensus.Tally

namespace UsingCensus

inductive TallyCall where
  | increment (name : String)
  | merge (counts : List (String × Int))
  | snapshot
  deriving DecidableEq, Repr

/-- A tally with the snapshots that were handed out, and the calls that each worker has yet to make. -/
structure SharedTally where
  tally : Tally
  snapshots : List (List (String × Int))
  pending : List (List TallyCall)

namespace SharedTally

def start (calls : List (List TallyCall)) : SharedTally := ⟨Tally.empty, [], calls⟩

def serve (shared : SharedTally) : TallyCall → SharedTally
  | .increment name => { shared with tally := shared.tally.increment name }
  | .merge counts => { shared with tally := shared.tally.merge counts }
  | .snapshot => { shared with snapshots := shared.snapshots ++ [shared.tally.snapshot] }

def step (shared : SharedTally) (worker : Nat) : Option SharedTally :=
  match shared.pending[worker]? with
  | some (call :: rest) => some (serve { shared with pending := shared.pending.set worker rest } call)
  | _ => none

def run (calls : List (List TallyCall)) (turns : List Nat) : Option SharedTally :=
  turns.foldlM step (start calls)

end SharedTally
end UsingCensus
