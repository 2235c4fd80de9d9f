import UsingCensus.Proofs.Discovery

/-!
What is reached from the paths that a solution or project file starts with. Main statement: loading that
ends well has loaded, breadth first and once each, the projects that are reached and can be loaded, and has
told of each path that cannot, once.
-/
namespace UsingCensus.Surroundings

variable {around : Surroundings} {start : List Path} {path : Path}

/-- The paths to start from: those of a solution's entries that are no folders, or a single project. -/
inductive IsStart (around : Surroundings) : List Path → Prop where
  | solution {file : Path} {entries : List SolutionEntry} (proper : file.Proper)
      (listed : around.solutionEntries file = .ok entries) :
      around.IsStart ((entries.filter (!·.isFolder)).map SolutionEntry.path)
  | project {path : Path} (proper : path.Proper) : around.IsStart [path]
  | nothing : around.IsStart []

/-- Paths are reached from the start, and through the references of projects that load. -/
inductive Reached (around : Surroundings) (start : List Path) : Path → Prop where
  | start {path : Path} (member : path ∈ start) : around.Reached start path
  | reference {path reference : Path} {project : Project} {reports : List String}
      (reached : around.Reached start path) (isFile : around.isFile path.toString = true)
      (evaluates : around.evaluate path = .ok (project, reports))
      (member : reference ∈ project.references) : around.Reached start reference

/-- Looking at the path finds no file, or one that does not evaluate. -/
def Fails (around : Surroundings) (path : Path) : Prop :=
  ∃ found, around.probe path.toString = .ok found ∧
    ((∀ bytes, found ≠ some (.file bytes)) ∨ ∃ fault, around.evaluate path = .error fault)

/-- The order of discovery: the paths to start from, then what projects refer to, each path where it comes
first. -/
def discovered (around : Surroundings) (start : List Path) (projects : List Project) : List Path :=
  around.unseen [] (start ++ projects.flatMap Project.references)

theorem located_of_solutionEntries {file : Path} {entries : List SolutionEntry}
    (listed : around.solutionEntries file = .ok entries) {entry : SolutionEntry} (member : entry ∈ entries) :
    ∃ text, entry.path = Path.locate file.parent text := by
  unfold solutionEntries at listed
  cases read : around.read file.toString with
  | error fault =>
    rw [read] at listed
    cases listed
  | ok bytes =>
    rw [read] at listed
    cases listed
    obtain ⟨raw, _, rfl⟩ := List.mem_map.mp member
    exact ⟨_, rfl⟩

/-- The paths to start from are proper, and normal unless there is one alone, which may be spelled in any
way. -/
theorem IsStart.spelled (starts : around.IsStart start) :
    (∀ path ∈ start, path.Proper) ∧ ((∀ path ∈ start, path.Normal) ∨ ∃ path, start = [path]) := by
  cases starts with
  | @solution file entries proper listed =>
    have located : ∀ path ∈ (entries.filter (!·.isFolder)).map SolutionEntry.path,
        path.Proper ∧ path.Normal := by
      intro path member
      obtain ⟨entry, chosen, rfl⟩ := List.mem_map.mp member
      obtain ⟨text, same⟩ := located_of_solutionEntries listed (List.mem_filter.mp chosen).1
      rw [same]
      exact ⟨(proper.parent.join (Path.proper_ofString text)).normal, Path.normal_normal _⟩
    exact ⟨fun path member => (located path member).1, .inl fun path member => (located path member).2⟩
  | project proper => exact ⟨by simpa using proper, .inr ⟨_, rfl⟩⟩
  | nothing => simp

theorem Reached.proper (settled : around.Settled) (proper : ∀ path ∈ start, path.Proper)
    (reached : around.Reached start path) : path.Proper ∧ (path ∈ start ∨ path.IsKey) := by
  induction reached with
  | start member => exact ⟨proper _ member, .inl member⟩
  | reference _ _ evaluates member ih =>
    have keyed := (evaluate_eq_ok evaluates).2.2 (isKey_projectKey settled ih.1).proper _ member
    exact ⟨keyed.proper, .inr keyed⟩

theorem Reached.spelled (settled : around.Settled) (starts : around.IsStart start)
    (reached : around.Reached start path) : path.Proper ∧ (path ∈ start ∨ path.IsKey) :=
  reached.proper settled starts.spelled.1

/-- A single path to start from loads if anything does. -/
theorem Reached.first_loads {first : Path} (reached : around.Reached [first] path)
    {project : Project} {reports : List String} (loads : around.visit path = .loaded project reports) :
    ∃ project reports, around.visit first = .loaded project reports := by
  induction reached generalizing project reports with
  | start member =>
    rw [List.mem_singleton.mp member] at loads
    exact ⟨_, _, loads⟩
  | reference _ isFile evaluates _ ih => exact ih (visit_eq_loaded_iff.mpr ⟨isFile, evaluates⟩)

/-- Two spellings of a path that are reached load alike, unless looking at the other fails altogether. -/
theorem Reached.agree (settled : around.Settled) (starts : around.IsStart start)
    (reached : around.Reached start path) {project : Project} {reports : List String}
    (loads : around.visit path = .loaded project reports) {other : Path}
    (also : around.Reached start other) (same : around.projectKey other = around.projectKey path) :
    around.visit other = .loaded project reports ∨ ∃ fault, around.visit other = .ended fault := by
  have faithful : around.Faithful other := by
    obtain ⟨proper, member | key⟩ := also.spelled settled starts
    · rcases starts.spelled.2 with normal | ⟨first, single⟩
      · exact faithful_of_normal settled proper (normal other member)
      · subst single
        obtain ⟨_, _, first⟩ := reached.first_loads loads
        rw [← List.mem_singleton.mp member] at first
        exact faithful_of_loaded first
    · exact faithful_of_isKey around key
  exact faithful project reports (same ▸ visit_projectKey loads)

/-! ### What loading has found -/

/-- The account of loading from some paths. -/
structure Discovers (around : Surroundings) (start : List Path) (loading : Loading) : Prop where
  /-- Projects stand under different paths, each absolute and normal. -/
  distinct : (loading.projects.map Project.path).Nodup
  keyed : ∀ project ∈ loading.projects, project.path.IsKey
  /-- What was reached and can be loaded is loaded, and nothing else is. -/
  complete : ∀ project, project ∈ loading.projects ↔ ∃ path reports, around.Reached start path ∧
    around.isFile path.toString = true ∧ around.evaluate path = .ok (project, reports)
  /-- Projects come in the order of their discovery. -/
  ordered : loading.projects =
    (around.discovered start loading.projects).filterMap fun path => (around.visit path).project?
  /-- Each path is looked at where it is discovered, and what is told is told then. -/
  events : loading.events =
    (around.discovered start loading.projects).flatMap fun path => (around.visit path).events
  reached : ∀ path, around.Reached start path →
    ∃ first, (around.discovered start loading.projects).filter
      (fun other => around.projectKey other = around.projectKey path) = [first] ∧
        around.Reached start first
  /-- A path that fails is told of once, however often and in whatever spelling it is referred to. -/
  warned : ∀ path, around.Reached start path → around.Fails path →
    ∃ first, (around.discovered start loading.projects).filter
      (fun other => around.projectKey other = around.projectKey path) = [first] ∧
        ((around.visit first).events = [.warned (missingProject first)] ∨
          ∃ fault, around.evaluate path = .error fault ∧
            (around.visit first).events = [.warned fault.message])

private theorem sublist_paths (around : Surroundings) (visited : List Path) :
    ((visited.filterMap fun path => (around.visit path).project?).map Project.path).Sublist
      (visited.map around.projectKey) := by
  induction visited with
  | nil => exact List.Sublist.refl _
  | cons path rest ih =>
    cases looks : around.visit path with
    | loaded project reports =>
      have known := (evaluate_eq_ok (visit_eq_loaded_iff.mp looks).2).1
      simpa [looks, Visit.project?, known] using ih
    | skipped message => simpa [looks, Visit.project?] using ih.cons _
    | ended fault => simpa [looks, Visit.project?] using ih.cons _

private theorem filter_projectKey {visited : List Path} (distinct : (visited.map around.projectKey).Nodup)
    (member : path ∈ visited) :
    visited.filter (fun other => around.projectKey other = around.projectKey path) = [path] := by
  obtain ⟨before, after, rfl⟩ := List.append_of_mem member
  rw [List.map_append, List.map_cons, List.nodup_append, List.nodup_cons] at distinct
  obtain ⟨_, ⟨afterwards, _⟩, apart⟩ := distinct
  have early : before.filter (fun other => around.projectKey other = around.projectKey path) = [] := by
    apply List.filter_eq_nil_iff.mpr
    intro other earlier
    simpa using apart _ (List.mem_map_of_mem earlier) _ List.mem_cons_self
  have late : after.filter (fun other => around.projectKey other = around.projectKey path) = [] := by
    apply List.filter_eq_nil_iff.mpr
    intro other later
    have different : around.projectKey other ≠ around.projectKey path :=
      fun same => afterwards (same ▸ List.mem_map_of_mem later)
    simpa using different
  rw [List.filter_append, List.filter_cons_of_pos (by simp), early, late]
  rfl

theorem Reached.closed (around : Surroundings) (start : List Path) :
    ∀ path project reports, around.Reached start path → around.visit path = .loaded project reports →
      ∀ reference ∈ project.references, around.Reached start reference := by
  intro path project reports reached loads reference member
  obtain ⟨isFile, evaluates⟩ := visit_eq_loaded_iff.mp loads
  exact .reference reached isFile evaluates member

/-- The bound on the projects that are loaded is never felt. -/
theorem loads_load (settled : around.Settled) (proper : ∀ path ∈ start, path.Proper) :
    around.Loads [] start (around.load start) := by
  have known : ∀ path project reports, around.Reached start path →
      around.visit path = .loaded project reports →
        around.projectKey path ∈ around.candidates (FileTree.pathLimit - 2) :=
    fun path project reports reached loads =>
      projectKey_mem_candidates settled (reached.proper settled proper).1 loads
  have room := Nat.le_trans (List.length_filter_le (· ∉ []) _)
    (around.length_candidates_le_loadBound start)
  exact loads_loadQueue (Reached.closed around start) known (fun _ => .start) room

theorem explored_load (settled : around.Settled) (starts : around.IsStart start)
    (ends : (around.load start).fault = none) :
    Explored around (around.Reached start) [] start (around.load start) :=
  (loads_load settled starts.spelled.1).explored (Reached.closed around start) (fun _ => .start) ends

variable {P : Path → Prop} {loading : Loading} {project : Project} {reports : List String}

theorem Explored.projects (explored : Explored around P [] start loading) :
    loading.projects =
      (around.discovered start loading.projects).filterMap fun path => (around.visit path).project? := by
  have told := explored.events
  have each (visited : List Path) :
      (Loading.mk (visited.flatMap fun path => (around.visit path).events) none).projects =
        visited.filterMap fun path => (around.visit path).project? := by
    induction visited with
    | nil => rfl
    | cons path rest ih =>
      have joined : (Loading.mk ((path :: rest).flatMap fun path => (around.visit path).events) none).projects =
          (Loading.mk (around.visit path).events none).projects ++
            (Loading.mk (rest.flatMap fun path => (around.visit path).events) none).projects := by
        simp [Loading.projects]
      rw [joined, ih, Loading.projects_events]
      cases found : (around.visit path).project? <;> simp [found]
  rw [discovered, ← each, ← told]
  rfl

theorem Explored.mem_projects_iff (explored : Explored around P [] start loading) :
    project ∈ loading.projects ↔ ∃ path ∈ around.discovered start loading.projects,
      ∃ reports, around.visit path = .loaded project reports := by
  have same : project ∈ loading.projects ↔ project ∈
      (around.discovered start loading.projects).filterMap fun path => (around.visit path).project? := by
    rw [← explored.projects]
  simp only [same, List.mem_filterMap, Visit.project?_eq_some]

theorem Explored.loads_first (settled : around.Settled) (starts : around.IsStart start)
    (explored : Explored around (around.Reached start) [] start loading)
    (reached : around.Reached start path) (loads : around.visit path = .loaded project reports)
    {first : Path} (looked : first ∈ around.discovered start loading.projects)
    (same : around.projectKey first = around.projectKey path) :
    around.visit first = .loaded project reports := by
  rcases reached.agree settled starts loads (explored.sound first looked) same with loads | ⟨fault, ended⟩
  · exact loads
  · exact absurd ended (explored.whole first looked fault)

theorem Explored.exists_first (settled : around.Settled) (starts : around.IsStart start)
    (explored : Explored around (around.Reached start) [] start loading)
    (reached : around.Reached start path) :
    ∃ first ∈ around.discovered start loading.projects,
      around.projectKey first = around.projectKey path := by
  induction reached with
  | start member => exact exists_mem_unseen (List.mem_append_left _ member) List.not_mem_nil
  | @reference path reference project reports reached isFile evaluates member ih =>
    obtain ⟨first, looked, same⟩ := ih
    have loads := explored.loads_first settled starts reached (visit_eq_loaded_iff.mpr ⟨isFile, evaluates⟩)
      looked same
    have listed := explored.mem_projects_iff.mpr ⟨first, looked, reports, loads⟩
    exact exists_mem_unseen (List.mem_append_right _ (List.mem_flatMap.mpr ⟨project, listed, member⟩))
      List.not_mem_nil

theorem Explored.nodup_paths (explored : Explored around P [] start loading) :
    (loading.projects.map Project.path).Nodup := by
  rw [explored.projects]
  exact (around.nodup_unseen [] _).sublist (sublist_paths around _)

/-- What loads is what was reached and can be loaded. -/
theorem Explored.mem_projects_iff_reached (settled : around.Settled) (starts : around.IsStart start)
    (explored : Explored around (around.Reached start) [] start loading) :
    project ∈ loading.projects ↔ ∃ path reports, around.Reached start path ∧
      around.isFile path.toString = true ∧ around.evaluate path = .ok (project, reports) := by
  rw [explored.mem_projects_iff]
  constructor
  · rintro ⟨path, looked, reports, loads⟩
    exact ⟨path, reports, explored.sound path looked, visit_eq_loaded_iff.mp loads⟩
  · rintro ⟨path, reports, reached, opens⟩
    obtain ⟨first, looked, same⟩ := explored.exists_first settled starts reached
    exact ⟨first, looked, reports,
      explored.loads_first settled starts reached (visit_eq_loaded_iff.mpr opens) looked same⟩

/-- Loading that ends well has found all that is reached. -/
theorem load_discovers (settled : around.Settled) (starts : around.IsStart start)
    (ends : (around.load start).fault = none) : around.Discovers start (around.load start) := by
  have explored := explored_load settled starts ends
  generalize around.load start = loading at explored
  have once := around.nodup_unseen [] (start ++ loading.projects.flatMap Project.references)
  exact {
    distinct := explored.nodup_paths
    keyed := by
      intro project member
      obtain ⟨path, _, reached, _, evaluates⟩ :=
        (explored.mem_projects_iff_reached settled starts).mp member
      rw [(evaluate_eq_ok evaluates).1]
      exact isKey_projectKey settled (reached.spelled settled starts).1
    complete := fun project => explored.mem_projects_iff_reached settled starts
    ordered := explored.projects
    events := explored.events
    reached := by
      intro path reached
      obtain ⟨first, looked, same⟩ := explored.exists_first settled starts reached
      exact ⟨first, same ▸ filter_projectKey once looked, explored.sound first looked⟩
    warned := by
      intro path reached fails
      obtain ⟨first, looked, same⟩ := explored.exists_first settled starts reached
      refine ⟨first, same ▸ filter_projectKey once looked, ?_⟩
      have alike : around.evaluate first = around.evaluate path := by
        rw [← evaluate_projectKey, same, evaluate_projectKey]
      cases looks : around.visit first with
      | ended fault => exact absurd looks (explored.whole first looked fault)
      | skipped message =>
        rcases message_of_skipped looks with rfl | ⟨fault, failed, rfl⟩
        · exact .inl rfl
        · exact .inr ⟨fault, alike ▸ failed, rfl⟩
      | loaded project reports =>
        obtain ⟨found, probed, noFile | ⟨fault, failed⟩⟩ := fails
        · rcases (explored.sound first looked).agree settled starts looks reached same.symm with
            loads | ⟨fault, ended⟩
          · simp [visit_of_no_file probed noFile] at loads
          · simp [visit_of_no_file probed noFile] at ended
        · rw [← alike, (visit_eq_loaded_iff.mp looks).2] at failed
          cases failed }

/-- A project that refers to itself in another spelling, and twice to one that is missing. -/
def reachabilitySample : Surroundings where
  tree := FileTree.empty.plant ["r", "a.csproj"] (.file (Text.Utf8.ofString
    "<P><ProjectReference Include='b.csproj;../r/a.csproj;b.csproj'/></P>"))
  directory := ["r"]
  home := "/r"

/-- The project is loaded once, and the missing one is told of once. -/
theorem load_discovers_sample :
    (reachabilitySample.load [⟨.here, ["a.csproj"]⟩]).projects.map Project.path =
        [⟨.root, ["r", "a.csproj"]⟩] ∧
      (reachabilitySample.load [⟨.here, ["a.csproj"]⟩]).warnings =
        ["Project file not found: /r/b.csproj"] ∧
      reachabilitySample.Discovers [⟨.here, ["a.csproj"]⟩]
        (reachabilitySample.load [⟨.here, ["a.csproj"]⟩]) := by
  have settled : reachabilitySample.Settled :=
    settled_of_directory rfl (by unfold FileTree.Legal; decide) (by decide +kernel)
  have starts : reachabilitySample.IsStart [⟨.here, ["a.csproj"]⟩] :=
    .project (by unfold Path.Proper; decide)
  have found : ((reachabilitySample.load [⟨.here, ["a.csproj"]⟩]).projects.map Project.path,
      (reachabilitySample.load [⟨.here, ["a.csproj"]⟩]).warnings,
      (reachabilitySample.load [⟨.here, ["a.csproj"]⟩]).fault) =
        ([⟨.root, ["r", "a.csproj"]⟩], ["Project file not found: /r/b.csproj"], none) := by
    decide +kernel
  simp only [Prod.mk.injEq] at found
  obtain ⟨projects, warnings, ends⟩ := found
  exact ⟨projects, warnings, load_discovers settled starts ends⟩

end UsingCensus.Surroundings
