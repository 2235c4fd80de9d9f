import UsingCensus.Ranking
import UsingCensus.Text.Integer

namespace UsingCensus

/-- Warnings in the order in which they were given. -/
structure WarningLog where
  messages : List String
  deriving DecidableEq, Repr

namespace WarningLog

def empty : WarningLog := ⟨[]⟩

def add (log : WarningLog) (message : String) : WarningLog := ⟨log.messages ++ [message]⟩

def size (log : WarningLog) : Nat := log.messages.length

def isEmpty (log : WarningLog) : Bool := log.messages.isEmpty

end WarningLog

def countWidth : Nat := 6

inductive ReportFault where
  | longCount
  deriving DecidableEq, Repr

def ReportFault.message : ReportFault → String
  | .longCount => "Exceeds the limit (" ++ toString Text.digitLimit ++ " digits) for integer string " ++
      "conversion; use sys.set_int_max_str_digits() to increase the limit"

namespace Row

/-- Can the count be written? Its sign is no digit. -/
def isWritable (row : Row) : Bool := (toString row.count.natAbs).toList.length ≤ Text.digitLimit

def format (row : Row) : String :=
  let count := (toString row.count).toList
  String.ofList (count ++ List.replicate (countWidth - count.length) ' ' ++ ' ' :: row.name.toList)

def line (row : Row) : Except ReportFault String :=
  if row.isWritable then .ok row.format else .error .longCount

end Row

structure Report where
  out : String
  err : String
  deriving DecidableEq, Repr

namespace Report

/-- Lines that each end in a line feed. -/
def lines (texts : List String) : String := String.join (texts.map (· ++ "\n"))

def table (rows : List Row) : String := lines (rows.map Row.format)

def make (rows : List Row) (warnings : List String) (showWarnings : Bool) : Report :=
  let shown := if showWarnings then warnings else []
  ⟨(if shown = [] then "" else "\n") ++ table rows, lines shown⟩

/-- Write a report, up to the first row that cannot be written. -/
def write (rows : List Row) (warnings : List String) (showWarnings : Bool) : Report × Option ReportFault :=
  (make (rows.takeWhile Row.isWritable) warnings showWarnings,
    if rows.all Row.isWritable then none else some .longCount)

end Report
end UsingCensus
