import UsingCensus.Proofs.Omissions

/-!
Opening a workspace. Main statement: a workspace is returned unless the path of the solution holds a NUL or
a path that is looked at ends loading; whatever else fails is told of in one warning and costs nothing but
itself.
-/
namespace UsingCensus.Surroundings

variable {around : Surroundings} {file : Path}

/-- The paths that a file leads to at once: the entries of a solution that are no folders, or itself. -/
def startPaths (around : Surroundings) (file : Path) : List Path :=
  if Text.lowerText file.suffix = ".sln" then
    match around.solutionEntries file with
    | .ok entries => (entries.filter (!·.isFolder)).map SolutionEntry.path
    | .error _ => []
  else [file]

/-- What is told of the file itself. -/
def announced (around : Surroundings) (file : Path) : List LoadEvent :=
  if Text.lowerText file.suffix = ".sln" then
    match around.solutionEntries file with
    | .ok _ => [.declared file.name (around.startPaths file).length]
    | .error fault => [.warned (unreadableSolution file fault), .declared file.name 0]
  else []

/-- A solution whose path cannot be passed on at all. -/
def Unspeakable (file : Path) : Prop :=
  Text.lowerText file.suffix = ".sln" ∧ '\x00' ∈ file.toString.toList

theorem solutionEntries_eq_embeddedNull_iff (around : Surroundings) :
    around.solutionEntries file = .error .embeddedNull ↔ '\x00' ∈ file.toString.toList := by
  rw [← read_eq_embeddedNull_iff around]
  unfold solutionEntries
  cases around.read file.toString <;> simp [Except.map]

theorem openWorkspace_of_unspeakable (unspeakable : Unspeakable file) :
    around.openWorkspace file = ⟨[], some (.path .embeddedNull)⟩ := by
  unfold openWorkspace
  rw [if_pos unspeakable.1, (solutionEntries_eq_embeddedNull_iff around).mpr unspeakable.2]

theorem openWorkspace_eq (around : Surroundings) (speakable : ¬ Unspeakable file) :
    around.openWorkspace file = (around.load (around.startPaths file)).after (around.announced file) := by
  unfold openWorkspace announced startPaths
  by_cases isSolution : Text.lowerText file.suffix = ".sln"
  · simp only [if_pos isSolution]
    cases listed : around.solutionEntries file with
    | ok entries => rfl
    | error fault =>
      cases fault with
      | embeddedNull => exact absurd ⟨isSolution, (solutionEntries_eq_embeddedNull_iff around).mp listed⟩ speakable
      | refused cause told => rfl
  · simp only [if_neg isSolution]
    rfl

theorem isStart_startPaths (around : Surroundings) (proper : file.Proper) : around.IsStart (around.startPaths file) := by
  unfold startPaths
  split
  · split
    · rename_i entries listed
      exact .solution proper listed
    · exact .nothing
  · exact .project proper

/-- What opening a file comes to. -/
structure Opening (around : Surroundings) (file : Path) (opened : Loading) : Prop where
  /-- A workspace is returned unless the path of a solution holds a NUL, or a path that ends loading is
  looked at; the first of them ends it. -/
  fault : ∀ fault, opened.fault = some fault ↔
    (Unspeakable file ∧ fault = .path .embeddedNull) ∨
    (¬ Unspeakable file ∧ ∃ before path after,
      around.discovered (around.startPaths file) opened.projects = before ++ path :: after ∧
      around.Ends path fault ∧ ∀ earlier ∈ before, ∀ cause, ¬ around.Ends earlier cause)
  /-- A solution that cannot be read leaves a warning and an empty workspace. -/
  unreadable : ∀ fault, ¬ Unspeakable file → Text.lowerText file.suffix = ".sln" →
    around.read file.toString = .error fault →
      opened = ⟨[.warned (unreadableSolution file fault), .declared file.name 0], none⟩
  /-- Each path that is looked at before the end is told of. -/
  told : ¬ Unspeakable file → opened.events = around.announced file ++
    (around.looked (around.discovered (around.startPaths file) opened.projects)).flatMap
      fun path => (around.visit path).events
  /-- A path loads, ends loading, or is told of in one warning. -/
  judged : ∀ path, (∃ project reports, around.visit path = .loaded project reports) ∨
    (∃ fault, around.Ends path fault) ∨
    ∃ message, around.Skips path message ∧ (around.visit path).events = [.warned message]
  /-- What is passed over costs only itself: where no entry and no reference names it, the same projects
  load in the same order, and the same is told but for the one warning. -/
  alone : ¬ Unspeakable file → ∀ other key, around.Omits other (around.startPaths file) key →
    (∀ path, around.Reached (around.startPaths file) path → around.projectKey path = key →
      ∃ message, around.Skips path message) →
    (other.load (around.omitted key (around.startPaths file))).fault = opened.fault ∧
    (other.load (around.omitted key (around.startPaths file))).projects =
      opened.projects.map (Project.omit around key) ∧
    ∃ before told after, opened.events = around.announced file ++ (before ++ told ++ after) ∧
      (told = [] ∨ ∃ message, told = [.warned message]) ∧
      (other.load (around.omitted key (around.startPaths file))).events =
        (before ++ after).map (LoadEvent.omit around key)

/-- The first path in the order of discovery that ends loading is the one that ends it. -/
private theorem findSome?_fault_eq_some_iff {paths : List Path} {fault : LoadFault} :
    (paths.findSome? fun path => (around.visit path).fault?) = some fault ↔
      ∃ before path after, paths = before ++ path :: after ∧ around.Ends path fault ∧
        ∀ earlier ∈ before, ∀ cause, ¬ around.Ends earlier cause := by
  have each (path : Path) (cause : LoadFault) :
      (around.visit path).fault? = some cause ↔ around.Ends path cause :=
    Visit.fault?_eq_some.trans visit_eq_ended_iff
  have none (path : Path) :
      (around.visit path).fault? = none ↔ ∀ cause, ¬ around.Ends path cause := by
    rw [Option.eq_none_iff_forall_ne_some]
    exact forall_congr' fun cause => not_congr (each path cause)
  rw [List.findSome?_eq_some_iff]
  simp only [each, none]

theorem projects_announced (around : Surroundings) (file : Path) (loading : Loading) :
    (loading.after (around.announced file)).projects = loading.projects := by
  rw [Loading.projects_after]
  have nothing : (Loading.mk (around.announced file) none).projects = [] := by
    unfold announced
    split
    · split <;> rfl
    · rfl
  rw [nothing, List.nil_append]

/-- Opening any file comes to a workspace with all that can be loaded, or to one of the known faults. -/
theorem opening_openWorkspace (settled : around.Settled) (proper : file.Proper) :
    around.Opening file (around.openWorkspace file) := by
  have starts := isStart_startPaths around proper
  have loads := loads_load settled starts.spelled.1
  have opens (speakable : ¬ Unspeakable file) := openWorkspace_eq around speakable
  exact {
    fault := by
      intro fault
      by_cases unspeakable : Unspeakable file
      · rw [openWorkspace_of_unspeakable unspeakable]
        simp [unspeakable, eq_comm]
      · rw [opens unspeakable, projects_announced, discovered, ← findSome?_fault_eq_some_iff,
          ← loads.told.2]
        simp [unspeakable, Loading.after]
    unreadable := by
      intro fault speakable isSolution failed
      have listed : around.solutionEntries file = .error fault := by
        unfold solutionEntries
        rw [failed]
        rfl
      have nothing : around.startPaths file = [] := by
        unfold startPaths
        rw [if_pos isSolution, listed]
      have empty : around.load [] = ⟨[], none⟩ := by
        rw [nothing] at loads
        exact loads.unique .done
      rw [opens speakable, nothing, empty, announced, if_pos isSolution, listed]
      rfl
    told := by
      intro speakable
      rw [opens speakable, projects_announced, discovered, ← loads.told.1]
      rfl
    judged := by
      intro path
      cases visited : around.visit path with
      | loaded project reports => exact .inl ⟨project, reports, rfl⟩
      | skipped message => exact .inr (.inr ⟨message, visit_eq_skipped_iff.mp visited, rfl⟩)
      | ended fault => exact .inr (.inl ⟨fault, visit_eq_ended_iff.mp visited⟩)
    alone := by
      intro speakable other key omits skips
      obtain ⟨before, told, after, events, one, same, projects⟩ :=
        load_omit settled starts.spelled.1 omits fun path reached named =>
          (skips path reached named).imp fun message => visit_eq_skipped_iff.mpr
      rw [opens speakable, projects_announced]
      refine ⟨by rw [same]; rfl, projects, before, told, after, ?_, one, by rw [same]⟩
      rw [Loading.after, events] }

/-- A solution of two projects, of which the first declares an encoding that nobody knows. -/
def openingsSample : Surroundings where
  tree := [
    (["r", "s.sln"], Text.Utf8.ofString
      ("Project(\"\x7bA\x7d\") = \"b\", \"b.csproj\", \"\x7bB\x7d\"\n" ++
        "Project(\"\x7bA\x7d\") = \"g\", \"g.csproj\", \"\x7bC\x7d\"\n")),
    (["r", "b.csproj"], Text.Utf8.ofString "<?xml version='1.0' encoding='nope'?><P/>"),
    (["r", "g.csproj"], Text.Utf8.ofString "<P/>")].foldl
      (fun tree (location, bytes) => tree.plant location (.file bytes)) FileTree.empty
  directory := ["r"]
  home := "/r"

/-- No workspace is returned, although the second project loads by itself. -/
theorem opening_openWorkspace_sample :
    (openingsSample.openWorkspace ⟨.here, ["s.sln"]⟩).fault =
        some (.project (.encoding (.unknown "nope"))) ∧
      (openingsSample.openWorkspace ⟨.here, ["s.sln"]⟩).projects = [] ∧
      (openingsSample.openWorkspace ⟨.here, ["g.csproj"]⟩).projects.map Project.name = ["g"] ∧
      openingsSample.Opening ⟨.here, ["s.sln"]⟩ (openingsSample.openWorkspace ⟨.here, ["s.sln"]⟩) := by
  have settled : openingsSample.Settled :=
    settled_of_directory rfl (by unfold FileTree.Legal; decide) (by decide +kernel)
  have found : ((openingsSample.openWorkspace ⟨.here, ["s.sln"]⟩).fault,
      (openingsSample.openWorkspace ⟨.here, ["s.sln"]⟩).projects,
      (openingsSample.openWorkspace ⟨.here, ["g.csproj"]⟩).projects.map Project.name) =
        (some (.project (.encoding (.unknown "nope"))), [], ["g"]) := by
    decide +kernel
  simp only [Prod.mk.injEq] at found
  obtain ⟨fault, projects, alone⟩ := found
  exact ⟨fault, projects, alone, opening_openWorkspace settled (by unfold Path.Proper; decide)⟩

end UsingCensus.Surroundings
