import UsingCensus.Host
import Std.Time

/-!
The command line. A run sees the files as they are when it starts: those below the working directory and
those around the paths that it is given. What it appends to its log file is written back at its end.
-/
namespace UsingCensus.Survey

def location (place : IO.FS.DirEntry) : Location := (Path.ofString place.path.toString).parts

/-- Add a place and all below it. A link is kept as one that leads to the end of it at once, so one that dangles or
goes in circles is left out, like all that cannot be read. -/
def addPlace : Nat → FileTree → IO.FS.DirEntry → IO FileTree
  | 0, tree, _ => return tree
  | fuel + 1, tree, place => do
    try
      match (← place.path.symlinkMetadata).type with
      | .dir =>
        let tree := (FileTree.beginnings (location place)).foldl FileTree.makeDirectory tree
        (← place.path.readDir).foldlM (addPlace fuel) tree
      | .file => return tree.plant (location place) (.file (← IO.FS.readBinFile place.path).toList)
      | .symlink =>
        return tree.plant (location place) (.link (← IO.FS.realPath place.path).toString)
      | .other => return tree
    catch _ => return tree

def namedPaths (words : List String) : List Path :=
  match CommandLine.read words with
  | .ok (.run arguments) =>
    [Path.ofString arguments.path] ++ (arguments.config.map Path.ofString).toList ++ arguments.logFile.toList
  | _ => []

/-- Directories that hold what a path names, or are it. -/
def startingPlaces (around : Surroundings) (path : Path) : List IO.FS.DirEntry :=
  let path := match around.expandHome path with
    | .ok path => path
    | .error _ => path
  let path := (around.absolute path).normal
  [⟨path.parent.toString, path.name⟩]

def homeOf (text : String) : String :=
  let kept := (text.toList.reverse.dropWhile (· = '/')).reverse
  if kept = [] then "/" else String.ofList kept

/-- The homes of the users in the password file, if there is one. -/
def otherHomes : IO (List (String × String)) := do
  try
    let lines := (← IO.FS.lines "/etc/passwd").toList
    return lines.filterMap fun line =>
      match Text.splitAt ':' line.toList with
      | [name, _, _, _, _, home, _] => some (String.ofList name, homeOf (String.ofList home))
      | _ => none
  catch _ => return []

def surroundings (words : List String) : IO Surroundings := do
  let here ← IO.currentDir
  let home := homeOf ((← IO.getEnv "HOME").getD "/")
  let start : Surroundings :=
    ⟨FileTree.empty, (Path.ofString here.toString).parts, ⟨home, ← otherHomes⟩⟩
  let places := (Path.ofString "." :: namedPaths words).flatMap fun path =>
    startingPlaces start path ++ startingPlaces start path.parent
  let tree ← places.foldlM (addPlace FileTree.pathLimit) start.tree
  return { start with tree := tree }

def writeLogs (session : Session) : IO Unit :=
  for handler in session.log.handlers do
    match handler with
    | .stream _ => pure ()
    | .file _ location =>
      if let some (.file bytes) := session.around.tree.entry? location then
        IO.FS.writeBinFile (Path.mk .root location).toString ⟨bytes.toArray⟩

end UsingCensus.Survey

open UsingCensus in
def main (words : List String) : IO UInt32 := do
  let around ← Survey.surroundings words
  let stamp := (← Std.Time.PlainDateTime.now).format "uuuu-MM-dd HH:mm:ss,SSS"
  let (host, outcome) := (Host.start around).run [Grammar.bundled] none stamp words
  Survey.writeLogs host.session
  (← IO.getStderr).putStr outcome.err
  (← IO.getStdout).putStr outcome.out
  match outcome.ending with
  | .exit status => return status.code.toUInt32
  | .crash fault =>
    IO.eprintln fault.message
    return 1
