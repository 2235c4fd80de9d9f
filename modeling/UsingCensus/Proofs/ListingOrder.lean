import Mathlib.Data.List.Nodup
import UsingCensus.Census.Tour
import UsingCensus.Proofs.Likeness

/-!
The order in which directories list their names. Main statement: surroundings whose directories list the same
entries in any other order stand for the same targets, have the same projects and come to the same censuses,
event by event.
-/
namespace UsingCensus

namespace FileTree

variable {tree other : FileTree} {location : Location}

theorem entry?_eq_some_iff {entry : Entry} (below : location ≠ []) :
    tree.entry? location = some entry ↔ (location, entry) ∈ tree.entries := by
  unfold entry?
  rw [if_neg below, Option.map_eq_some_iff]
  constructor
  · rintro ⟨old, found, rfl⟩
    have same : old.1 = location := by simpa using List.find?_some found
    exact same ▸ List.mem_of_find?_eq_some found
  · intro member
    have present : (tree.entries.find? (·.1 = location)).isSome :=
      List.find?_isSome.mpr ⟨_, member, by simp⟩
    obtain ⟨old, found⟩ := Option.isSome_iff_exists.mp present
    have same : old.1 = location := by simpa using List.find?_some found
    have only := List.inj_on_of_nodup_map tree.nodup (List.mem_of_find?_eq_some found) member same
    exact ⟨old, found, by rw [only]⟩

theorem entry?_eq_of_perm (same : other.entries.Perm tree.entries) (location : Location) :
    other.entry? location = tree.entry? location := by
  by_cases top : location = []
  · rw [top]
    rfl
  · refine Option.ext fun entry => ?_
    rw [entry?_eq_some_iff top, entry?_eq_some_iff top, same.mem_iff]

theorem alike_of_perm (same : other.entries.Perm tree.entries) : Alike (fun _ => False) tree other where
  size := same.length_eq
  same := fun location _ => entry?_eq_of_perm same location
  files := fun _ apart => apart.elim

end FileTree

namespace Surroundings

variable {around other : Surroundings}

/-- The same place with the same entries, which the directories may list in another order. -/
structure Relists (around other : Surroundings) : Prop where
  entries : other.tree.entries.Perm around.tree.entries
  directory : other.directory = around.directory
  home : other.home = around.home

namespace Relists

theorem alike (relists : Relists around other) : Alike (fun _ => False) around other :=
  ⟨FileTree.alike_of_perm relists.entries, relists.directory, relists.home⟩

theorem children_perm (relists : Relists around other) (directory : Location) :
    (other.tree.children directory).Perm (around.tree.children directory) :=
  relists.entries.filterMap _

theorem avoids (text : String) : around.Avoids (fun _ => False) text := fun _ _ => id

theorem evaluate_eq (relists : Relists around other) : other.evaluate = around.evaluate :=
  funext fun _ => relists.alike.evaluate_eq fun _ _ => avoids _

theorem visit_eq (relists : Relists around other) : other.visit = around.visit :=
  funext fun _ => relists.alike.visit_eq fun _ _ => avoids _

theorem readSource_eq (relists : Relists around other) : other.readSource = around.readSource :=
  funext fun _ => relists.alike.readSource_eq (avoids _)

theorem resolveTarget_eq (relists : Relists around other) : other.resolveTarget = around.resolveTarget :=
  funext relists.alike.resolveTarget_eq

/-! ### Loading -/

theorem passOver_eq (relists : Relists around other) (goOn : List Path → List Path → Loading)
    (seen queue : List Path) : other.passOver goOn seen queue = around.passOver goOn seen queue := by
  induction queue generalizing seen with
  | nil => rfl
  | cons path rest ih =>
    rw [passOver, passOver, relists.alike.projectKey_eq, relists.visit_eq]
    simp only [ih]

theorem loadQueue_eq (relists : Relists around other) (fuel : Nat) :
    other.loadQueue fuel = around.loadQueue fuel := by
  induction fuel with
  | zero =>
    funext seen queue
    exact relists.passOver_eq _ seen queue
  | succ fewer ih =>
    funext seen queue
    rw [loadQueue, loadQueue, ih]
    exact relists.passOver_eq _ seen queue

theorem load_eq (relists : Relists around other) : other.load = around.load := by
  funext start
  unfold load loadBound
  rw [relists.entries.length_eq, relists.loadQueue_eq]

theorem openWorkspace_eq (relists : Relists around other) : other.openWorkspace = around.openWorkspace := by
  funext file
  unfold openWorkspace solutionEntries
  rw [relists.alike.read_eq (avoids _), relists.load_eq]

/-! ### Censuses -/

theorem census_eq (relists : Relists around other) : other.census = around.census := by
  unfold census Course.load Course.gatherAll Course.gather importsOf
  rw [relists.openWorkspace_eq, relists.readSource_eq]

theorem commission_eq (relists : Relists around other) (commission : Commission) :
    commission.census other = commission.census around := by
  unfold Commission.census censusAt
  rw [relists.census_eq, relists.resolveTarget_eq]

theorem proceed_eq (relists : Relists around other) :
    Milestone.proceed other = Milestone.proceed around := by
  funext modules options milestone
  unfold Milestone.proceed
  rw [relists.resolveTarget_eq, relists.openWorkspace_eq]

theorem pool_step_eq (relists : Relists around other) : Pool.step other = Pool.step around := by
  unfold Pool.step Pool.work TaskStage.advance
  rw [relists.readSource_eq]

theorem tour_step_eq (relists : Relists around other) : Tour.step other = Tour.step around := by
  unfold Tour.step
  rw [relists.proceed_eq, relists.pool_step_eq]

end Relists

/-- The order in which directories list their names shows in no target, no project and no census, whichever
way its documents are read. -/
theorem relists_agree (relists : Relists around other) :
    (∀ text, other.resolveTarget text = around.resolveTarget text) ∧
    (∀ path, other.evaluate path = around.evaluate path) ∧
    (∀ (commission : Commission) (modules : List GrammarModule) (disturbance : Option Disturbance)
      (options : CensusOptions),
      (commission.census other modules disturbance options).follow =
        (commission.census around modules disturbance options).follow) ∧
    ∀ (commission : Commission) (modules : List GrammarModule) (options : CensusOptions) (fitting : Nat)
      (trace : List TourEvent),
      Tour.run other modules options fitting commission trace =
        Tour.run around modules options fitting commission trace := by
  refine ⟨fun text => ?_, fun path => ?_, ?_, ?_⟩
  · rw [relists.resolveTarget_eq]
  · rw [relists.evaluate_eq]
  · intro commission modules disturbance options
    rw [relists.commission_eq]
  · intro commission modules options fitting trace
    unfold Tour.run
    rw [relists.tour_step_eq]

def relistedSample (places : List (Location × String)) : Surroundings where
  tree := places.foldl (fun tree (location, text) => tree.plant location (.file (Text.Utf8.ofString text)))
    FileTree.empty
  directory := ["r"]
  home := "/r"

/-- Made the other way round, the files are listed the other way round. -/
theorem relists_agree_sample :
    ∃ around other : Surroundings, ∃ options census, Relists around other ∧
      around.tree.children ["r"] = ["p.csproj", "b.cs", "a.cs"] ∧
      other.tree.children ["r"] = ["a.cs", "b.cs", "p.csproj"] ∧
      other.resolveTarget "." = around.resolveTarget "." ∧
      other.evaluate ⟨.root, ["r", "p.csproj"]⟩ = around.evaluate ⟨.root, ["r", "p.csproj"]⟩ ∧
      ((Commission.path "p.csproj").census around [Grammar.bundled] none options).follow.1 = .ok census ∧
      ((Commission.path "p.csproj").census other [Grammar.bundled] none options).follow.1 = .ok census ∧
      census.rows = [⟨"B", 1⟩] := by
  let places : List (Location × String) := [
    (["r", "p.csproj"], "<Project><Compile Include='b.cs'/><ProjectReference Include='m.csproj'/></Project>"),
    (["r", "b.cs"], "using B;"),
    (["r", "a.cs"], "using A;")]
  let around := relistedSample places
  let other := relistedSample places.reverse
  let options : CensusOptions := ⟨none, some 2, ⟨[], [], none⟩, "tree_sitter_c_sharp"⟩
  let census : Census := ⟨⟨.root, ["r", "p.csproj"]⟩, [⟨"B", 1⟩], ["Project file not found: /r/m.csproj"], 1⟩
  have relists : Relists around other := ⟨by decide +kernel, rfl, rfl⟩
  have ran : ((Commission.path "p.csproj").census around [Grammar.bundled] none options).follow.1 =
      .ok census := by decide +kernel
  obtain ⟨targets, projects, censuses, _⟩ := relists_agree relists
  refine ⟨around, other, options, census, relists, by decide +kernel, by decide +kernel, targets ".",
    projects _, ran, ?_, rfl⟩
  rw [censuses, ran]

end Surroundings
end UsingCensus
