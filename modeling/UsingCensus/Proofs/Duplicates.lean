import Mathlib.Data.List.Nodup
import UsingCensus.Proofs.Reachability
import UsingCensus.Proofs.Resolution

/-!
Projects that are loaded twice. Main statement: no two projects have one canonical path exactly if no
project file is reached under two keys, which takes a link or a doubled slash at the start.
-/
namespace UsingCensus.Surroundings

variable {around : Surroundings} {start : List Path} {loading : Loading}

/-- A project file that is reached under a key stands at a location. -/
def Brings (around : Surroundings) (start : List Path) (key : Path) (location : Location) : Prop :=
  ∃ path project reports, around.Reached start path ∧ around.isFile path.toString = true ∧
    around.evaluate path = .ok (project, reports) ∧ around.projectKey path = key ∧
    around.seek true key.toString = .ok location

/-- A single slash at the start, and no link on the way. -/
def Plain (around : Surroundings) (path : Path) : Prop :=
  path.anchor = .root ∧
    ∀ place, place <+: path.parts → ∀ target, around.tree.entry? place ≠ some (.link target)

theorem walk_of_reached (settled : around.Settled) (starts : around.IsStart start) {path : Path}
    (reached : around.Reached start path) {project : Project} {reports : List String}
    (evaluates : around.evaluate path = .ok (project, reports)) :
    project.path.IsKey ∧ ∃ location links, around.seek true project.path.toString = .ok location ∧
      around.tree.Walk [] project.path.parts links location ∧
      around.canonical project.path = .ok ⟨.root, location⟩ := by
  obtain ⟨same, ⟨bytes, found⟩, _⟩ := evaluate_eq_ok evaluates
  have key := isKey_projectKey settled (reached.spelled settled starts).1
  rw [← same] at found key
  exact ⟨key, walk_of_find key found⟩

/-- What is brought is a project, and the place where it stands is its canonical path. -/
theorem Explored.canonical_of_brings (settled : around.Settled) (starts : around.IsStart start)
    (explored : Explored around (around.Reached start) [] start loading) {key : Path}
    {location : Location} (brings : around.Brings start key location) :
    key ∈ loading.projects.map Project.path ∧ around.canonical key = .ok ⟨.root, location⟩ := by
  obtain ⟨path, project, reports, reached, isFile, evaluates, rfl, sought⟩ := brings
  have member := (explored.mem_projects_iff_reached settled starts).mpr
    ⟨path, reports, reached, isFile, evaluates⟩
  obtain ⟨_, place, _, stands, _, canonical⟩ := walk_of_reached settled starts reached evaluates
  rw [← (evaluate_eq_ok evaluates).1] at sought ⊢
  rw [sought] at stands
  cases stands
  exact ⟨List.mem_map_of_mem member, canonical⟩

theorem Explored.exists_brings (settled : around.Settled) (starts : around.IsStart start)
    (explored : Explored around (around.Reached start) [] start loading) {key : Path}
    (listed : key ∈ loading.projects.map Project.path) :
    ∃ location, around.Brings start key location := by
  obtain ⟨project, member, rfl⟩ := List.mem_map.mp listed
  obtain ⟨path, reports, reached, isFile, evaluates⟩ :=
    (explored.mem_projects_iff_reached settled starts).mp member
  obtain ⟨_, location, _, stands, _⟩ := walk_of_reached settled starts reached evaluates
  exact ⟨location, path, project, reports, reached, isFile, evaluates,
    (evaluate_eq_ok evaluates).1.symm, stands⟩

theorem Brings.plain (settled : around.Settled) (starts : around.IsStart start) {key : Path}
    {location : Location} (brings : around.Brings start key location) (plain : around.Plain key) :
    key = ⟨.root, location⟩ := by
  obtain ⟨path, project, reports, reached, _, evaluates, rfl, sought⟩ := brings
  obtain ⟨key, place, links, stands, walk, _⟩ := walk_of_reached settled starts reached evaluates
  rw [(evaluate_eq_ok evaluates).1] at key stands walk
  rw [sought] at stands
  cases stands
  rw [walk.plain key.named plain.2, ← plain.1]
  rfl

/-- No two projects have one canonical path exactly if no project file is reached under two keys; so it is
if all keys are plain. -/
theorem nodup_canonical_iff (settled : around.Settled) (starts : around.IsStart start)
    (ends : (around.load start).fault = none) :
    (((around.load start).projects.map fun project => around.canonical project.path).Nodup ↔
      ∀ location key other, around.Brings start key location → around.Brings start other location →
        key = other) ∧
    ((∀ key location, around.Brings start key location → around.Plain key) →
      ((around.load start).projects.map fun project => around.canonical project.path).Nodup) := by
  have explored := explored_load settled starts ends
  generalize around.load start = loading at explored
  have paths : (loading.projects.map fun project => around.canonical project.path) =
      (loading.projects.map Project.path).map around.canonical := by simp
  have once : (loading.projects.map fun project => around.canonical project.path).Nodup ↔
      ∀ location key other, around.Brings start key location → around.Brings start other location →
        key = other := by
    rw [paths, List.nodup_map_iff_inj_on explored.nodup_paths]
    constructor
    · intro apart location key other first second
      obtain ⟨member, canonical⟩ := explored.canonical_of_brings settled starts first
      obtain ⟨also, same⟩ := explored.canonical_of_brings settled starts second
      exact apart key member other also (canonical.trans same.symm)
    · intro apart key member other also same
      obtain ⟨location, first⟩ := explored.exists_brings settled starts member
      obtain ⟨place, second⟩ := explored.exists_brings settled starts also
      rw [(explored.canonical_of_brings settled starts first).2,
        (explored.canonical_of_brings settled starts second).2] at same
      cases same
      exact apart location key other first second
  refine ⟨once, ?_⟩
  intro plain
  rw [once]
  intro location key other first second
  rw [first.plain settled starts (plain key location first),
    second.plain settled starts (plain other location second)]

/-- A project that refers to itself through a link to its directory. -/
def duplicatesSample : Surroundings where
  tree := (FileTree.empty.plant ["r", "real", "a.csproj"] (.file (Text.Utf8.ofString
    "<P><ProjectReference Include='../link/a.csproj'/></P>"))).plant ["r", "link"] (.link "real")
  directory := ["r"]
  home := "/r"

/-- Its file is reached under two keys, and the project is loaded twice. -/
theorem nodup_canonical_sample :
    (duplicatesSample.load [⟨.here, ["real", "a.csproj"]⟩]).fault = none ∧
      ((duplicatesSample.load [⟨.here, ["real", "a.csproj"]⟩]).projects.map fun project =>
        duplicatesSample.canonical project.path) =
          [.ok ⟨.root, ["r", "real", "a.csproj"]⟩, .ok ⟨.root, ["r", "real", "a.csproj"]⟩] ∧
      ∃ location key other, duplicatesSample.Brings [⟨.here, ["real", "a.csproj"]⟩] key location ∧
        duplicatesSample.Brings [⟨.here, ["real", "a.csproj"]⟩] other location ∧ key ≠ other := by
  have settled : duplicatesSample.Settled :=
    settled_of_directory rfl (by unfold FileTree.Legal; decide) (by decide +kernel)
  have starts : duplicatesSample.IsStart [⟨.here, ["real", "a.csproj"]⟩] :=
    .project (by unfold Path.Proper; decide)
  have found : ((duplicatesSample.load [⟨.here, ["real", "a.csproj"]⟩]).fault,
      (duplicatesSample.load [⟨.here, ["real", "a.csproj"]⟩]).projects.map fun project =>
        duplicatesSample.canonical project.path) =
      (none, [.ok ⟨.root, ["r", "real", "a.csproj"]⟩, .ok ⟨.root, ["r", "real", "a.csproj"]⟩]) := by
    decide +kernel
  obtain ⟨ends, twice⟩ := Prod.mk.inj found
  refine ⟨ends, twice, ?_⟩
  have both := (nodup_canonical_iff settled starts ends).1
  rw [twice] at both
  apply Classical.byContradiction
  intro alone
  have once := both.mpr fun location key other first second =>
    Classical.byContradiction fun different => alone ⟨location, key, other, first, second, different⟩
  simp at once

end UsingCensus.Surroundings
