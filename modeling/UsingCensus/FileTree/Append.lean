import UsingCensus.FileTree.Follow

namespace UsingCensus

namespace FileTree

/-- Put bytes at the end of a file; nothing else grows. -/
def append (tree : FileTree) (location : Location) (bytes : List UInt8) : FileTree :=
  match tree.entry? location with
  | some (.file old) => tree.insert location (.file (old ++ bytes))
  | _ => tree

end FileTree

namespace Surroundings

/-- The location that a path leads to. A missing last name is made a file. -/
def openForAppending (around : Surroundings) (text : String) :
    Except PathFault (Location × Surroundings) :=
  if text.toList.contains '\x00' then .error .embeddedNull
  else
    match around.seek true text with
    | .error cause => .error (.refused cause text)
    | .ok location =>
      match around.tree.entry? location with
      | some .directory => .error (.refused .isDirectory text)
      | some _ => .ok (location, around)
      | none => .ok (location, { around with tree := around.tree.insert location (.file []) })

end Surroundings
end UsingCensus
