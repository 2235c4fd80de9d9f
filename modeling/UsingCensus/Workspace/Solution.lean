import UsingCensus.Path.Normal
import UsingCensus.FileTree.Follow
import UsingCensus.Text.Blank
import UsingCensus.Text.Lines

namespace UsingCensus

structure SolutionEntry where
  name : String
  path : Path
  kind : String
  guid : String
  deriving DecidableEq, Repr

namespace SolutionEntry

def folderKind : String := "2150E333-8FDC-42A3-9474-1A3956D46DE8"

def isFolder (entry : SolutionEntry) : Bool := Text.upperText entry.kind = folderKind

end SolutionEntry

namespace Solution

structure RawEntry where
  kind : String
  name : String
  path : String
  guid : String
  deriving DecidableEq, Repr

def word? (text : String) (cs : List Char) : Option (List Char) :=
  let rest := cs.dropWhile Text.isBlank
  if text.toList.isPrefixOf rest then some (rest.drop text.length) else none

def isGuidChar (c : Char) : Bool := Text.isHexDigit c || c = '-'

/-- An identifier that is not empty, and the text that closes it. -/
def guid? (closing : String) (cs : List Char) : Option (String × List Char) :=
  let guid := cs.takeWhile isGuidChar
  let rest := cs.dropWhile isGuidChar
  if guid ≠ [] && closing.toList.isPrefixOf rest then
    some (String.ofList guid, rest.drop closing.length)
  else none

def untilQuote? (cs : List Char) : Option (String × List Char) :=
  match cs.dropWhile (· ≠ '"') with
  | _ :: rest => some (String.ofList (cs.takeWhile (· ≠ '"')), rest)
  | [] => none

def entry? (cs : List Char) : Option (RawEntry × List Char) := do
  let (kind, cs) ← guid? "\x7d\")" (← word? "Project(\"\x7b" cs)
  let (name, cs) ← untilQuote? (← word? "\"" (← word? "=" cs))
  let (path, cs) ← untilQuote? (← word? "\"" (← word? "," cs))
  let (guid, cs) ← guid? "\x7d\"" (← word? "\"\x7b" (← word? "," cs))
  return (⟨kind, name, path, guid⟩, cs)

/-- All entries, sought at line starts only. `skip` characters belong to the entry found last. -/
def scan : Nat → Bool → List Char → List RawEntry
  | _, _, [] => []
  | skip + 1, _, _ :: rest => scan skip false rest
  | 0, false, c :: rest => scan 0 (c = '\n') rest
  | 0, true, c :: rest =>
    match entry? (c :: rest) with
    | some (entry, after) => entry :: scan (rest.length - after.length) false rest
    | none => scan 0 (c = '\n') rest

def rawEntries (cs : List Char) : List RawEntry := scan 0 true cs

/-- Backslashes separate the parts of a written path, which is relative to the solution's directory. -/
def resolve (directory : Path) (entry : RawEntry) : SolutionEntry :=
  let path := String.ofList (entry.path.toList.map fun c => if c = '\\' then '/' else c)
  ⟨entry.name, Path.locate directory path, entry.kind, entry.guid⟩

/-- The text of a solution file: one byte order mark is dropped, bad bytes are replaced. -/
def text (bytes : List UInt8) : List Char :=
  Text.unifyLineEnds (Text.Utf8.decodeReplacing (Text.Utf8.dropMark bytes))

end Solution

def Surroundings.solutionEntries (around : Surroundings) (file : Path) :
    Except PathFault (List SolutionEntry) :=
  (around.read file.toString).map fun bytes =>
    (Solution.rawEntries (Solution.text bytes)).map (Solution.resolve file.parent)

end UsingCensus
