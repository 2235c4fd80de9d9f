namespace UsingCensus

structure Row where
  name : String
  count : Int
  deriving DecidableEq, Repr

inductive RankingFault where
  | negativeLimit
  deriving DecidableEq, Repr

def RankingFault.message : RankingFault → String
  | .negativeLimit => "limit must not be negative"

namespace Row

/-- The order of rows in a ranking. -/
def precedes (a b : Row) : Bool := b.count < a.count || (a.count = b.count && decide (a.name ≤ b.name))

end Row

def ranking (entries : List (String × Int)) : List Row :=
  (entries.map fun (name, count) => ⟨name, count⟩).mergeSort Row.precedes

def rank (limit : Option Int) (entries : List (String × Int)) : Except RankingFault (List Row) :=
  match limit with
  | none => .ok (ranking entries)
  | some size => if size < 0 then .error .negativeLimit else .ok ((ranking entries).take size.toNat)

end UsingCensus
