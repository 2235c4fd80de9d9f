import UsingCensus.FileTree.Basic
import UsingCensus.FileTree.Fault
import UsingCensus.Path.Basic
import UsingCensus.Text.Utf8

/-!
Following paths through a file tree, links included. A walk through more than `linkLimit` links fails,
so it ends whatever the links say.
-/
namespace UsingCensus

namespace FileTree

def linkLimit : Nat := 40

def nameLimit : Nat := 255

def pathLimit : Nat := 4095

/-- The steps of a path text; a slash at the end is one more step that stays in place. -/
def steps (text : String) : List String :=
  let parts := (Path.pieces text).filter (· ≠ "")
  if Text.endsIn text "/" then parts ++ ["."] else parts

def startOf (text : String) (directory : Location) : Location :=
  if Text.startsIn text "/" then [] else directory

/-- The most steps that a link of the tree puts in its place. -/
def longestLink (tree : FileTree) : Nat :=
  (tree.entries.map fun
    | (_, .link target) => (steps target).length
    | _ => 0).foldr max 0

theorem length_steps_le_longestLink {tree : FileTree} {location : Location} {target : String}
    (found : tree.entry? location = some (.link target)) : (steps target).length ≤ tree.longestLink := by
  unfold entry? at found
  split at found
  · cases found
  unfold longestLink
  generalize tree.entries = entries at found
  induction entries with
  | nil => simp at found
  | cons entry rest ih =>
    rw [List.find?_cons] at found
    split at found
    · obtain ⟨_, _⟩ := entry
      cases found
      simp only [List.map_cons, List.foldr_cons]
      omega
    · have later := ih found
      simp only [List.map_cons, List.foldr_cons]
      omega

/-- How long following may go on: `links` links may be passed through before the rest is walked. -/
def reach (tree : FileTree) (links : Nat) (rest : List String) : Nat :=
  links * (tree.longestLink + 1) + rest.length

theorem reach_lt {tree : FileTree} {location : Location} {target : String}
    (found : tree.entry? location = some (.link target)) (links : Nat) (name : String)
    (more : List String) :
    tree.reach links (steps target ++ more) < tree.reach (links + 1) (name :: more) := by
  have bounded := length_steps_le_longestLink found
  simp only [reach, List.length_append, List.length_cons, Nat.succ_mul]
  omega

/-- Go on from a location. The last name may be missing or, unless `through` is set, a link. -/
def follow (tree : FileTree) (through : Bool) (links : Nat) (here : Location) (rest : List String) :
    Except PathCause Location :=
  match rest with
  | [] => .ok here
  | name :: more =>
    match tree.entry? here with
    | none => .error .notFound
    | some (.file _) => .error .notDirectory
    | some (.link _) => .error .notDirectory
    | some .directory =>
      if (Text.Utf8.ofString name).length > nameLimit then .error .nameTooLong
      else if name = "." then tree.follow through links here more
      else if name = ".." then tree.follow through links here.dropLast more
      else
        let next := here ++ [name]
        match _found : tree.entry? next with
        | some (.link target) =>
          if more = [] ∧ through = false then .ok next
          else
            match links with
            | 0 => .error .tooManyLinks
            | fewer + 1 => tree.follow through fewer (startOf target here) (steps target ++ more)
        | _ => tree.follow through links next more
termination_by tree.reach links rest
decreasing_by all_goals first | exact reach_lt ‹_› _ _ _ | (simp only [reach, List.length_cons]; omega)

end FileTree

/-- The user's home, and those of the other users that are known. -/
structure Homes where
  own : String
  others : List (String × String)

instance : Coe String Homes := ⟨fun own => ⟨own, []⟩⟩

/-- A file tree with the directory that relative paths start from and the homes of users. -/
structure Surroundings where
  tree : FileTree
  directory : Location
  home : Homes

namespace Surroundings

def seek (around : Surroundings) (through : Bool) (text : String) : Except PathCause Location :=
  if text = "" then .error .notFound
  else if (Text.Utf8.ofString text).length > FileTree.pathLimit then .error .nameTooLong
  else
    around.tree.follow through FileTree.linkLimit (FileTree.startOf text around.directory)
      (FileTree.steps text)

/-- The entry at the end of a path; with `through` set it is no link. -/
def find (around : Surroundings) (through : Bool) (text : String) : Except PathFault Entry :=
  if text.toList.contains '\x00' then .error .embeddedNull
  else
    match around.seek through text with
    | .error cause => .error (.refused cause text)
    | .ok location =>
      match around.tree.entry? location with
      | some entry => .ok entry
      | none => .error (.refused .notFound text)

def isDirectory (around : Surroundings) (text : String) : Bool :=
  match around.find true text with
  | .ok .directory => true
  | _ => false

def isFile (around : Surroundings) (text : String) : Bool :=
  match around.find true text with
  | .ok (.file _) => true
  | _ => false

/-- Is there an entry, be it a link that leads nowhere? -/
def hasEntry (around : Surroundings) (text : String) : Bool :=
  match around.find false text with
  | .ok _ => true
  | _ => false

/-- What a careful test finds: every failure counts as nothing but a name that is too long. -/
def probe (around : Surroundings) (text : String) : Except PathFault (Option Entry) :=
  match around.find true text with
  | .ok entry => .ok (some entry)
  | .error (.refused .nameTooLong path) => .error (.refused .nameTooLong path)
  | .error _ => .ok none

def list (around : Surroundings) (text : String) : Except PathFault (List String) :=
  if text.toList.contains '\x00' then .error .embeddedNull
  else
    match around.seek true text with
    | .error cause => .error (.refused cause text)
    | .ok location =>
      match around.tree.entry? location with
      | some .directory => .ok (around.tree.children location)
      | some _ => .error (.refused .notDirectory text)
      | none => .error (.refused .notFound text)

def read (around : Surroundings) (text : String) : Except PathFault (List UInt8) :=
  match around.find true text with
  | .ok (.file bytes) => .ok bytes
  | .ok .directory => .error (.refused .isDirectory text)
  | .ok (.link _) => .error (.refused .tooManyLinks text)
  | .error fault => .error fault

def absolute (around : Surroundings) (path : Path) : Path := Path.join ⟨.root, around.directory⟩ path

end Surroundings
end UsingCensus
