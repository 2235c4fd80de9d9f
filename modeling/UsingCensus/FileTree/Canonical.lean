import UsingCensus.FileTree.Follow
import UsingCensus.Path.Normal

namespace UsingCensus

namespace FileTree

/-- Replace links from a location on. `entered` holds the links that are being replaced; meeting one
of them again is a circle, and the parts up to it and after it are returned as they stand. -/
def unlink (tree : FileTree) (budget : Nat) (entered : List Location) (here : Location)
    (rest : List String) : Except (List String) Location :=
  match rest with
  | [] => .ok here
  | name :: more =>
    if name = "." then tree.unlink budget entered here more
    else if name = ".." then tree.unlink budget entered here.dropLast more
    else
      let next := here ++ [name]
      match _found : tree.entry? next with
      | some (.link target) =>
        if next ∈ entered then .error (next ++ more)
        else
          match budget with
          | 0 => .error (next ++ more)
          | fewer + 1 =>
            match tree.unlink fewer (next :: entered) (startOf target here) (steps target) with
            | .error parts => .error (parts ++ more)
            | .ok there => tree.unlink (fewer + 1) entered there more
      | _ => tree.unlink budget entered next more
termination_by tree.reach budget rest
decreasing_by
  all_goals first
    | (have shorter := reach_lt ‹_› fewer name more
       simp only [reach, Nat.succ_eq_add_one, List.length_append, List.length_cons] at shorter ⊢
       omega)
    | (simp only [reach, List.length_cons]; omega)

end FileTree

inductive CanonicalFault where
  | circle (path : String)
  | embeddedNull
  | homeUnknown
  deriving DecidableEq, Repr

def CanonicalFault.message : CanonicalFault → String
  | .circle path => "Symlink loop from " ++ Text.quoted path
  | .embeddedNull => "embedded null byte"
  | .homeUnknown => "Could not determine home directory."

namespace Surroundings

/-- The canonical form. A circle that normalisation steps over does no harm. -/
def canonical (around : Surroundings) (path : Path) : Except CanonicalFault Path :=
  if path.toString.toList.contains '\x00' then .error .embeddedNull
  else
    let start := around.absolute path
    match around.tree.unlink around.tree.entries.length [] [] start.parts with
    | .ok location => .ok ⟨.root, location⟩
    | .error parts =>
      let standing : Path := ⟨.root, Path.normalParts true (parts.filter Path.isPart)⟩
      match around.find true standing.toString with
      | .error (.refused .tooManyLinks _) => .error (.circle standing.toString)
      | _ => .ok standing

/-- The home that is meant by `~`, or by it with the name of a user. -/
def homeOf? (around : Surroundings) (first : String) : Option String :=
  if first = "~" then some around.home.own
  else if Text.startsIn first "~" then around.home.others.lookup (String.ofList (first.toList.drop 1))
  else none

/-- Put a home directory for a leading `~`. -/
def expandHome (around : Surroundings) (path : Path) : Except CanonicalFault Path :=
  match path.anchor, path.parts with
  | .here, first :: rest =>
    match around.homeOf? first with
    | some home => .ok ((Path.ofString home).join ⟨.here, rest⟩)
    | none => if Text.startsIn first "~" then .error .homeUnknown else .ok path
  | _, _ => .ok path

end Surroundings
end UsingCensus
