import UsingCensus.Proofs.Detours

/-!
Which file a directory stands for. Main statement: the first solution in or below the directory, or else the first
project, unless folders that are left out, links or too long paths are in the way; and a path is refused as
missing, as not valid or as standing for no file in just these cases.
-/
namespace UsingCensus

open FileTree Wildcard Target

namespace Surroundings

variable {around : Surroundings} {text ending name : String} {base : Location} {place : List String} {path : Path}

/-! ### Candidates -/

/-- A file with the ending that is found by a search through the directory. -/
def Candidate (around : Surroundings) (text : String) (base : Location) (ending : String) (place : List String) :
    Prop :=
  ∃ folders name, place = folders ++ [name] ∧ hasEnding ending name = true ∧
    around.Found entersFolder 0 (Path.ofString text).toString base folders name

/-- The candidate that comes before all others. -/
structure IsFirst (around : Surroundings) (text : String) (base : Location) (ending : String) (place : List String) :
    Prop where
  candidate : around.Candidate text base ending place
  least : ∀ other, around.Candidate text base ending other → other = place ∨ Precedes place other

theorem visited_ofString (found : around.locate? true text = some base)
    (stands : around.tree.entry? base = some .directory) :
    around.Visited 0 (Path.ofString text) (Path.ofString text).toString base where
  toReaches := reaches_ofString found stands
  proper := Path.proper_ofString text
  deep := Nat.zero_le _
  spelled := Path.spelled_zero _

section Search

variable (lawful : around.Lawful) (found : around.locate? true text = some base)
  (stands : around.tree.entry? base = some .directory)
include lawful found stands

theorem mem_walk_ending_iff :
    (path ∈ around.walk entersFolder (Path.ofString text) ∧ hasEnding ending path.name = true) ↔
      ∃ place, path = (Path.ofString text).within place ∧ around.Candidate text base ending place := by
  rw [mem_walk_iff lawful (visited_ofString found stands)]
  constructor
  · rintro ⟨⟨folders, name, rfl, sought⟩, has⟩
    refine ⟨folders ++ [name], rfl, folders, name, rfl, ?_, sought⟩
    rwa [Path.name_within] at has
  · rintro ⟨_, rfl, folders, name, rfl, has, sought⟩
    refine ⟨⟨folders, name, rfl, sought⟩, ?_⟩
    rwa [Path.name_within]

theorem isFirst_of_find? (chosen : (around.walk entersFolder (Path.ofString text)).find?
      (fun path => hasEnding ending path.name) = some path) :
    ∃ place, path = (Path.ofString text).within place ∧ around.IsFirst text base ending place := by
  have sorted : (around.walk entersFolder (Path.ofString text)).Pairwise (InOrder (Path.ofString text)) :=
    pairwise_filesBelow around entersFolder _ 0 (Path.ofString text)
  obtain ⟨has, before, after, whole, passed⟩ := List.find?_eq_some_iff_append.mp chosen
  obtain ⟨place, same, candidate⟩ := (mem_walk_ending_iff lawful found stands).mp
    ⟨List.mem_of_find?_eq_some chosen, has⟩
  refine ⟨place, same, candidate, fun other also => ?_⟩
  obtain ⟨member, ends⟩ := (mem_walk_ending_iff lawful found stands).mpr ⟨other, rfl, also⟩
  rw [whole] at member sorted
  -- whatever the walk meets before has another ending, and what it meets later comes later
  rcases List.mem_append.mp member with early | late
  · have missed := passed _ early
    rw [ends] at missed
    cases missed
  rcases List.mem_cons.mp late with this | later
  · exact .inl (Path.within_injective _ (this.trans same))
  · have behind := (List.pairwise_cons.mp (List.pairwise_append.mp sorted).2.1).1 _ later
    obtain ⟨first, second, one, two, precedes⟩ := behind
    rw [same] at one
    have here : place = first := List.append_cancel_left one
    have there : other = second := List.append_cancel_left two
    exact .inr (here ▸ there ▸ precedes)

theorem no_candidate_of_find? (missing : (around.walk entersFolder (Path.ofString text)).find?
      (fun path => hasEnding ending path.name) = none) (place : List String) :
    ¬ around.Candidate text base ending place := by
  intro candidate
  obtain ⟨member, ends⟩ := (mem_walk_ending_iff lawful found stands).mpr ⟨place, rfl, candidate⟩
  exact List.find?_eq_none.mp missing _ member ends

end Search

/-! ### What stands for a directory -/

/-- What stands for a directory: the first solution, else the first project. -/
structure StandsFor (around : Surroundings) (text : String) (base : Location) (located : Option Path) : Prop where
  some_iff : located ≠ none ↔ ∃ ending ∈ endings, ∃ place, around.Candidate text base ending place
  solution : (∃ place, around.Candidate text base ".sln" place) →
    ∃ place, located = some ((Path.ofString text).within place) ∧ around.IsFirst text base ".sln" place
  project : (∀ place, ¬ around.Candidate text base ".sln" place) →
    (∃ place, around.Candidate text base ".csproj" place) →
    ∃ place, located = some ((Path.ofString text).within place) ∧ around.IsFirst text base ".csproj" place

theorem standsFor_firstDescriptor? (lawful : around.Lawful) (found : around.locate? true text = some base)
    (stands : around.tree.entry? base = some .directory) :
    around.StandsFor text base (around.firstDescriptor? (Path.ofString text)) := by
  unfold firstDescriptor? endings
  cases solutions : (around.walk entersFolder (Path.ofString text)).find? fun path => hasEnding ".sln" path.name with
  | some path =>
    obtain ⟨place, rfl, first⟩ := isFirst_of_find? lawful found stands solutions
    simp only [List.findSome?_cons, solutions]
    exact {
      some_iff := ⟨fun _ => ⟨".sln", by decide, place, first.candidate⟩, fun _ => Option.some_ne_none _⟩
      solution := fun _ => ⟨place, rfl, first⟩
      project := fun none => absurd first.candidate (none place) }
  | none =>
    have noSolution := no_candidate_of_find? lawful found stands solutions
    cases projects : (around.walk entersFolder (Path.ofString text)).find?
        fun path => hasEnding ".csproj" path.name with
    | some path =>
      obtain ⟨place, rfl, first⟩ := isFirst_of_find? lawful found stands projects
      simp only [List.findSome?_cons, solutions, projects]
      exact {
        some_iff := ⟨fun _ => ⟨".csproj", by decide, place, first.candidate⟩, fun _ => Option.some_ne_none _⟩
        solution := fun ⟨place, candidate⟩ => absurd candidate (noSolution place)
        project := fun _ _ => ⟨place, rfl, first⟩ }
    | none =>
      have noProject := no_candidate_of_find? lawful found stands projects
      simp only [List.findSome?_cons, solutions, projects, List.findSome?_nil]
      refine {
        some_iff := ⟨fun some => absurd rfl some, ?_⟩
        solution := fun ⟨place, candidate⟩ => absurd candidate (noSolution place)
        project := fun _ ⟨place, candidate⟩ => absurd candidate (noProject place) }
      rintro ⟨ending, member, place, candidate⟩
      have either : ending = ".sln" ∨ ending = ".csproj" := by simpa [endings] using member
      rcases either with rfl | rfl
      · exact absurd candidate (noSolution place)
      · exact absurd candidate (noProject place)

/-! ### Refusals -/

/-- When a path is refused, and why. -/
structure Refuses (around : Surroundings) (text : String) : Prop where
  pathNotFound_iff : around.resolveTarget text = .error .pathNotFound ↔
    around.isDirectory text = false ∧ around.isFile text = false
  invalidPath_iff : around.resolveTarget text = .error .invalidPath ↔
    around.isDirectory text = false ∧ around.isFile text = true ∧ isDescriptor text = false
  workItemNotFound_iff : around.resolveTarget text = .error .workItemNotFound ↔
    (around.isDirectory text = true ∨ around.isFile text = true ∧ isDescriptor text = true) ∧
      around.locateDescriptor text = .ok none

theorem resolveTarget_of_valid (present : around.pathExists text = true) (valid : around.isValidPath text = true) :
    around.resolveTarget text ≠ .error .pathNotFound ∧ around.resolveTarget text ≠ .error .invalidPath ∧
      (around.resolveTarget text = .error .workItemNotFound ↔ around.locateDescriptor text = .ok none) := by
  unfold resolveTarget
  rw [present, valid]
  simp only [Bool.not_true, Bool.false_eq_true, if_false]
  cases around.locateDescriptor text with
  | error fault => simp
  | ok located =>
    cases located with
    | none => simp
    | some located =>
      dsimp only
      cases around.expandHome located >>= around.canonical with
      | error fault => simp
      | ok resolved => simp

theorem refuses (around : Surroundings) (text : String) : around.Refuses text := by
  cases directory : around.isDirectory text with
  | true =>
    have present : around.pathExists text = true := by simp [pathExists, directory]
    have valid : around.isValidPath text = true := by simp [isValidPath, directory]
    obtain ⟨exists_, invalid, missing⟩ := resolveTarget_of_valid present valid
    exact ⟨by simp [exists_, directory], by simp [invalid, directory], by simp [missing, directory]⟩
  | false =>
    cases file : around.isFile text with
    | false =>
      have absent : around.resolveTarget text = .error .pathNotFound := by
        simp [resolveTarget, pathExists, directory, file]
      exact ⟨by simp [absent, directory, file], by simp [absent, file], by simp [absent, directory, file]⟩
    | true =>
      have present : around.pathExists text = true := by simp [pathExists, file]
      cases descriptor : isDescriptor text with
      | false =>
        have invalid : around.resolveTarget text = .error .invalidPath := by
          simp [resolveTarget, present, isValidPath, directory, descriptor]
        exact ⟨by simp [invalid, file], by simp [invalid, directory, file, descriptor],
          by simp [invalid, directory, descriptor]⟩
      | true =>
        have valid : around.isValidPath text = true := by simp [isValidPath, descriptor]
        obtain ⟨exists_, invalid, missing⟩ := resolveTarget_of_valid present valid
        exact ⟨by simp [exists_, file], by simp [invalid, descriptor], by simp [missing, file, descriptor]⟩

theorem locateDescriptor_eq (directory : around.isDirectory text = true) (plain : isDescriptor text = false) :
    around.locateDescriptor text = .ok (around.firstDescriptor? (Path.ofString text)) := by
  have present : around.pathExists text = true := by simp [pathExists, directory]
  unfold locateDescriptor
  rw [plain, if_neg (by decide), if_neg (by simpa using not_mem_of_pathExists present)]

/-- A directory stands for the first solution that a search finds, or else for the first project. Links are
followed, and paths walked, as far as the system does so. A path is refused for three reasons, as told. -/
theorem locateDescriptor_first (lawful : around.Lawful) (text : String) :
    (around.isDirectory text = true → isDescriptor text = false →
      ∃ base located, around.locate? true text = some base ∧ around.tree.entry? base = some .directory ∧
        around.locateDescriptor text = .ok located ∧ around.StandsFor text base located) ∧
      around.Refuses text := by
  refine ⟨fun directory plain => ?_, refuses around text⟩
  obtain ⟨base, found, stands⟩ := isDirectory_iff.mp directory
  exact ⟨base, _, found, stands, locateDescriptor_eq directory plain, standsFor_firstDescriptor? lawful found stands⟩

/-- The solution in a directory stands for it, and a path to nothing is refused. -/
theorem locateDescriptor_first_sample :
    (∃ base located, resolvedSample.locate? true "d" = some base ∧
      resolvedSample.locateDescriptor "d" = .ok located ∧ resolvedSample.StandsFor "d" base located ∧
      ∃ place, located = some ((Path.ofString "d").within place) ∧ resolvedSample.IsFirst "d" base ".sln" place) ∧
    resolvedSample.Refuses "b" ∧ resolvedSample.resolveTarget "b" = .error .pathNotFound := by
  have lawful : resolvedSample.Lawful := by
    unfold Lawful Nameable Legal
    decide +kernel
  obtain ⟨base, located, found, _, locates, stands⟩ :=
    (locateDescriptor_first lawful "d").1 (by decide +kernel) (by decide)
  have refused := (locateDescriptor_first lawful "b").2
  have place : base = ["r", "d"] := by
    have there : resolvedSample.locate? true "d" = some ["r", "d"] := by decide +kernel
    exact Option.some.inj (found.symm.trans there)
  subst place
  have candidate : resolvedSample.Candidate "d" ["r", "d"] ".sln" ["A.Sln"] := by
    refine ⟨[], "A.Sln", rfl, by decide, trivial, fun place prefixed => ?_, by decide, by decide, by decide, ?_⟩
    · rw [List.prefix_nil.mp prefixed]
      decide
    · decide +kernel
  have missing := refused.pathNotFound_iff.mpr ⟨by decide +kernel, by decide +kernel⟩
  exact ⟨⟨_, located, found, locates, stands, stands.solution ⟨_, candidate⟩⟩, refused, missing⟩

/-- On a detour through many links a link to a directory is located as a solution, though there is none; and a
solution below a long path is not located, though it is there. -/
theorem locateDescriptor_limited :
    (linkedSample.isDirectory linkedDetour.toString = true ∧ isDescriptor linkedDetour.toString = false ∧
      linkedSample.locate? true linkedDetour.toString = some ["r"] ∧
      linkedSample.locateDescriptor linkedDetour.toString ≠ .ok none ∧
      ∀ folders name, ¬ linkedSample.Bare entersFolder ["r"] folders name) ∧
    (nestedSample.isDirectory nestedDetour.toString = true ∧ isDescriptor nestedDetour.toString = false ∧
      nestedSample.locate? true nestedDetour.toString = some ["r"] ∧
      nestedSample.locateDescriptor nestedDetour.toString = .ok none ∧
      nestedSample.Bare entersFolder ["r"] [outerName, innerName] "x.sln" ∧ hasEnding ".sln" "x.sln" = true) := by
  constructor
  · have directory := isDirectory_linkedDetour
    have plain := not_isDescriptor_linkedDetour
    refine ⟨directory, plain, locate?_linkedDetour, ?_, fun folders name => not_bare_linkedSample _ folders name⟩
    rw [locateDescriptor_eq directory plain]
    have stands := standsFor_firstDescriptor? linkedSample_lawful locate?_linkedDetour rfl
    have candidate : linkedSample.Candidate linkedDetour.toString ["r"] ".sln" ["x.sln"] := by
      refine ⟨[], "x.sln", rfl, by decide, ?_⟩
      rw [Path.ofString_toString isFolder_linkedDetour.proper]
      exact found_linkedDetour entersFolder (by decide)
    have located := stands.some_iff.mpr ⟨".sln", by decide, ["x.sln"], candidate⟩
    exact fun none => located (Except.ok.inj none)
  · have directory := isDirectory_nestedDetour
    have plain := not_isDescriptor_nestedDetour
    have entered {c : Char} (letter : c ≠ '.') (others : ∀ text ∈ excludedFolders, text.toList.all (· = c) = false)
        (depth : Nat) : entersFolder depth (repeatLetter c 200) = true := by
      have shown : Text.startsIn (repeatLetter c 200) "." = false := not_isHidden_repeatLetter letter 200
      simp [entersFolder, shown, repeatLetter_not_mem others 200]
    refine ⟨directory, plain, locate?_nestedDetour, ?_,
      bare_nestedSample ⟨entered (by decide) (by decide) 0, entered (by decide) (by decide) 1⟩ (by decide), by decide⟩
    rw [locateDescriptor_eq directory plain]
    have stands := standsFor_firstDescriptor? nestedSample_lawful locate?_nestedDetour rfl
    by_contra some
    obtain ⟨ending, member, place, folders, name, rfl, has, found⟩ :=
      stands.some_iff.mp fun none => some (congrArg _ none)
    rw [Path.ofString_toString isFolder_nestedDetour.proper] at found
    rw [eq_of_found_nestedDetour found] at has
    obtain ⟨front, rest, spelled, _⟩ := exists_of_hasEnding member has
    exact not_mem_loopName (spelled ▸ by simp)

end Surroundings
end UsingCensus
