import UsingCensus.Path.Normal
import UsingCensus.Text.Blank
import UsingCensus.Wildcard.Expansion

namespace UsingCensus

namespace ItemList

def isUnevaluated : List Char → Bool
  | mark :: '(' :: rest => mark = '$' || mark = '@' || mark = '%' || isUnevaluated ('(' :: rest)
  | _ :: rest => isUnevaluated rest
  | [] => false

/-- The parts that say something: blanks around them are dropped and backslashes are slashes. -/
def parts (items : String) : List String :=
  (((Text.splitAt ';' items.toList).map fun part =>
    (Text.trim part).map fun c => if c = '\\' then '/' else c).filter (· ≠ [])).map String.ofList

/-- Does the part name files by a wildcard? A bracket alone does not make it do so. -/
def hasWildcard (part : String) : Bool := part.toList.any fun c => c = '*' || c = '?'

def skipped (project : Path) (part : String) : String :=
  "Skipping unevaluated item '" ++ part ++ "' in " ++ project.toString

/-- One report for each part that is not evaluated, in their order. -/
def reports (project : Path) (items : String) : List String :=
  ((parts items).filter fun part => isUnevaluated part.toList).map (skipped project)

end ItemList

namespace Surroundings

def partPaths (around : Surroundings) (directory : Path) (part : String) : List Path :=
  if ItemList.isUnevaluated part.toList then []
  else if ItemList.hasWildcard part then
    let pattern := if Text.startsIn part "/" then part else Wildcard.below directory.toString part
    ((around.expand pattern).filter around.isFile).map fun found => (Path.ofString found).normal
  else [Path.locate directory part]

/-- The paths that an item list stands for, in the order of its parts. -/
def itemPaths (around : Surroundings) (directory : Path) (items : String) : List Path :=
  (ItemList.parts items).flatMap (around.partPaths directory)

end Surroundings
end UsingCensus
