/-!
A file tree: what stands at each location below the root directory. Locations are the names on the way
down; entries keep the order in which they were made, and each location holds one entry.
-/
namespace UsingCensus

/-- The names from the root directory down. -/
abbrev Location := List String

inductive Entry where
  | file (bytes : List UInt8)
  | directory
  | link (target : String)
  deriving DecidableEq, Repr

structure FileTree where
  entries : List (Location × Entry)
  nodup : (entries.map Prod.fst).Nodup

namespace FileTree

def empty : FileTree := ⟨[], by simp⟩

/-- The root directory is always there. -/
def entry? (tree : FileTree) (location : Location) : Option Entry :=
  if location = [] then some .directory
  else (tree.entries.find? (·.1 = location)).map Prod.snd

/-- The names in a directory, in the order in which they were made. -/
def children (tree : FileTree) (directory : Location) : List String :=
  tree.entries.filterMap fun (location, _) =>
    match location.getLast? with
    | some name => if location.dropLast = directory then some name else none
    | none => none

private theorem nodup_update (location : Location) (entry : Entry) {entries : List (Location × Entry)}
    (distinct : (entries.map Prod.fst).Nodup) :
    ((entries.map fun old => if old.1 = location then (location, entry) else old).map Prod.fst).Nodup := by
  have keys : (entries.map fun old => if old.1 = location then (location, entry) else old).map Prod.fst =
      entries.map Prod.fst := by
    rw [List.map_map]
    apply List.map_congr_left
    intro old _
    by_cases same : old.1 = location <;> simp [same]
  rwa [keys]

private theorem nodup_append (location : Location) (entry : Entry) {entries : List (Location × Entry)}
    (distinct : (entries.map Prod.fst).Nodup) (absent : location ∉ entries.map Prod.fst) :
    ((entries ++ [(location, entry)]).map Prod.fst).Nodup := by
  rw [List.map_append, List.nodup_append]
  refine ⟨distinct, by simp, ?_⟩
  rintro a member b found rfl
  simp only [List.map_cons, List.map_nil, List.mem_singleton] at found
  exact absent (found ▸ member)

/-- Put an entry: in place of the old one, else after all others. -/
def insert (tree : FileTree) (location : Location) (entry : Entry) : FileTree :=
  if present : location ∈ tree.entries.map Prod.fst then
    ⟨tree.entries.map fun old => if old.1 = location then (location, entry) else old,
      nodup_update location entry tree.nodup⟩
  else ⟨tree.entries ++ [(location, entry)], nodup_append location entry tree.nodup present⟩

def makeDirectory (tree : FileTree) (location : Location) : FileTree :=
  if tree.entry? location = none then tree.insert location .directory else tree

/-- Every beginning of a location, short ones first. -/
def beginnings (location : Location) : List Location :=
  (List.range (location.length + 1)).map fun length => location.take length

/-- Make the directories on the way to a location, then put the entry. -/
def plant (tree : FileTree) (location : Location) (entry : Entry) : FileTree :=
  ((beginnings location.dropLast).foldl makeDirectory tree).insert location entry

end FileTree
end UsingCensus
