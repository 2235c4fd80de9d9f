import UsingCensus.FileTree.Follow

namespace UsingCensus

/-- Ascending order of names by code points. -/
def sortNames (names : List String) : List String := names.mergeSort fun a b => !decide (b < a)

/-- How a walk spells a path that many folders below its start: below the current directory with a dot in front. -/
def Path.spelled (depth : Nat) (path : Path) : String :=
  if path.anchor = .here ∧ path.parts.length = depth then String.intercalate "/" ("." :: path.parts)
  else path.toString

namespace Surroundings

def isLink (around : Surroundings) (text : String) : Bool :=
  match around.find false text with
  | .ok (.link _) => true
  | _ => false

def namesOf (around : Surroundings) (text : String) : List String :=
  match around.list text with
  | .ok names => names
  | .error _ => []

/-- Does a directory stand under the name in the directory that the path leads to? -/
def holdsDirectory (around : Surroundings) (text name : String) : Bool :=
  if text.toList.contains '\x00' then false
  else
    match around.seek true text with
    | .error _ => false
    | .ok location =>
      around.tree.entry? location = some .directory && around.tree.entry? (location ++ [name]) = some .directory

/-- Does a listed name count as a directory? One that is no link does, even if its own path is too long. -/
def leadsToDirectory (around : Surroundings) (depth : Nat) (directory : Path) (name : String) : Bool :=
  around.isDirectory ((directory.child name).spelled (depth + 1)) ||
    around.holdsDirectory (directory.spelled depth) name

/-- The files below a directory. `enter depth name` says which subdirectories are visited, where the
depth counts from the start; `fuel` bounds the depth. -/
def filesBelow (around : Surroundings) (enter : Nat → String → Bool) :
    Nat → Nat → Path → List Path
  | 0, _, _ => []
  | fuel + 1, depth, directory =>
    let names := sortNames (around.namesOf (directory.spelled depth))
    let files := names.filter fun name => !around.leadsToDirectory depth directory name
    let folders := names.filter fun name =>
      around.leadsToDirectory depth directory name && enter depth name &&
        !around.isLink ((directory.child name).spelled (depth + 1))
    files.map directory.child ++
      folders.flatMap fun name => around.filesBelow enter fuel (depth + 1) (directory.child name)

/-- No chain of directories is longer than the number of entries. -/
def walk (around : Surroundings) (enter : Nat → String → Bool) (directory : Path) : List Path :=
  around.filesBelow enter (around.tree.entries.length + 1) 0 directory

end Surroundings
end UsingCensus
