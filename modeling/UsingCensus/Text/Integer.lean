import UsingCensus.Text.Blank
import UsingCensus.Text.Digit
import UsingCensus.Text.Letters

namespace UsingCensus.Text

/-- The longest decimal number that is read or written. -/
def digitLimit : Nat := 4300

/-- Digits with single underscores between them, as values. -/
def digitRun? : List Char → Option (List Nat)
  | [] => none
  | [c] => (digitValue? c).map ([·])
  | c :: '_' :: rest => do return (← digitValue? c) :: (← digitRun? rest)
  | c :: rest => do return (← digitValue? c) :: (← digitRun? rest)

/-- Split a leading sign off; the flag says whether it is a minus. -/
def splitSign : List Char → Bool × List Char
  | '-' :: rest => (true, rest)
  | '+' :: rest => (false, rest)
  | cs => (false, cs)

def integer? (text : String) : Option Int := do
  let (negative, rest) := splitSign (trim text.toList)
  let digits ← digitRun? rest
  if digits.length > digitLimit then none
  else
    let size : Int := (digits.foldl (fun total digit => total * 10 + digit) 0 : Nat)
    return if negative then -size else size

example : integer? " 1_000\n" = some 1000 ∧ integer? "_1" = none ∧ integer? "-0" = some 0 := by
  decide +kernel

end UsingCensus.Text
