import Mathlib.Data.List.Nodup
import UsingCensus.Proofs.Accounts
import UsingCensus.Proofs.Likeness
import UsingCensus.Proofs.Openings
import UsingCensus.Proofs.Resolution
import UsingCensus.Proofs.Targets
import UsingCensus.Proofs.Tours

/-!
Solutions with other entries. Main statements: from paths that reach each other the same projects load, in
another order; and two texts of one solution that lead to the same projects have the same rows and number of
documents in a census, and the same warnings up to their order, if nothing but the solution is read from its
file.
-/
namespace UsingCensus

namespace Selection

variable {selection : Selection} {first second : List Project}

theorem documents_perm (same : first.Perm second) :
    (selection.documents first).Perm (selection.documents second) :=
  (same.flatMap_right _).filterMap _

theorem warnings_perm (same : first.Perm second) :
    (selection.warnings first).Perm (selection.warnings second) :=
  (same.flatMap_right _).filterMap _

end Selection

namespace Surroundings

variable {around other : Surroundings} {start others : List Path} {path : Path} {loading : Loading}

/-! ### What is reached -/

theorem Reached.trans (reached : around.Reached start path)
    (from_ : ∀ path ∈ start, around.Reached others path) : around.Reached others path := by
  induction reached with
  | start member => exact from_ _ member
  | reference _ isFile evaluates member ih => exact .reference ih isFile evaluates member

/-- Projects that are reached load alike. -/
def Agrees (around other : Surroundings) (start : List Path) : Prop :=
  ∀ path, around.Reached start path →
    other.isFile path.toString = around.isFile path.toString ∧ other.evaluate path = around.evaluate path

theorem Agrees.reached_iff (agrees : around.Agrees other start) :
    other.Reached start path ↔ around.Reached start path := by
  constructor
  · intro reached
    induction reached with
    | start member => exact .start member
    | reference _ isFile evaluates member ih =>
      obtain ⟨opens, same⟩ := agrees _ ih
      exact .reference ih (opens ▸ isFile) (same ▸ evaluates) member
  · intro reached
    induction reached with
    | start member => exact .start member
    | reference reached isFile evaluates member ih =>
      obtain ⟨opens, same⟩ := agrees _ reached
      exact .reference ih (opens.trans isFile) (same.trans evaluates) member

theorem Explored.mem_discovered_iff (settled : around.Settled) (starts : around.IsStart start)
    (keyed : ∀ path ∈ start, path.IsKey) (explored : Explored around (around.Reached start) [] start loading)
    (path : Path) : path ∈ around.discovered start loading.projects ↔ around.Reached start path := by
  have isKey {path : Path} (reached : around.Reached start path) : path.IsKey :=
    (reached.spelled settled starts).2.elim (keyed path) id
  constructor
  · exact explored.sound path
  · intro reached
    obtain ⟨first, looked, same⟩ := explored.exists_first settled starts reached
    rw [around.projectKey_of_isKey (isKey reached),
      around.projectKey_of_isKey (isKey (explored.sound first looked))] at same
    exact same ▸ looked

/-- From keys that reach the same, the same is told in another order. -/
theorem events_perm (settled : around.Settled) (alsoSettled : other.Settled) (starts : around.IsStart start)
    (alsoStarts : other.IsStart others) (keyed : ∀ path ∈ start, path.IsKey)
    (alsoKeyed : ∀ path ∈ others, path.IsKey)
    (reached : ∀ path, other.Reached others path ↔ around.Reached start path)
    (visits : ∀ path, around.Reached start path → other.visit path = around.visit path)
    (ends : (around.load start).fault = none) (alsoEnds : (other.load others).fault = none) :
    (other.load others).events.Perm (around.load start).events := by
  have explored := explored_load settled starts ends
  have alsoExplored := explored_load alsoSettled alsoStarts alsoEnds
  have listed := explored.mem_discovered_iff settled starts keyed
  have alsoListed := alsoExplored.mem_discovered_iff alsoSettled alsoStarts alsoKeyed
  have order : (other.discovered others (other.load others).projects).Perm
      (around.discovered start (around.load start).projects) := by
    refine (List.perm_ext_iff_of_nodup (List.Nodup.of_map _ (other.nodup_unseen _ _))
      (List.Nodup.of_map _ (around.nodup_unseen _ _))).mpr fun path => ?_
    exact (alsoListed path).trans ((reached path).trans (listed path).symm)
  rw [explored.events, alsoExplored.events]
  refine order.flatMap fun path member => ?_
  have looked := (listed path).mp (order.mem_iff.mp member)
  rw [visits path looked]

/-! ### Other entries in a solution -/

theorem isKey_of_mem_startPaths {file : Path} (key : file.IsKey) (member : path ∈ around.startPaths file) :
    path.IsKey := by
  unfold startPaths at member
  split at member
  · split at member
    · rename_i entries listed
      obtain ⟨entry, chosen, rfl⟩ := List.mem_map.mp member
      obtain ⟨text, same⟩ := located_of_solutionEntries listed (List.mem_filter.mp chosen).1
      rw [same]
      exact isKey_locate key.proper.parent key.absolute text
    · cases member
  · exact List.mem_singleton.mp member ▸ key

theorem warnings_announced {file : Path} {place : Location} {bytes : List UInt8}
    (speakable : ¬ Unspeakable file) (leads : around.seek true file.toString = .ok place)
    (stands : around.tree.entry? place = some (.file bytes)) :
    (Loading.mk (around.announced file) none).warnings = [] := by
  unfold announced
  by_cases isSolution : Text.lowerText file.suffix = ".sln"
  · have plain : ¬ file.toString.toList.contains '\x00' = true := fun null =>
      speakable ⟨isSolution, by simpa using null⟩
    have read : around.read file.toString = .ok bytes := by
      unfold Surroundings.read find
      rw [if_neg plain, leads]
      simp only [stands]
    rw [if_pos isSolution, solutionEntries, read]
    rfl
  · rw [if_neg isSolution]
    rfl

/-- Surroundings where a solution's file holds another text and all else is the same: its entries lead to the
same projects, be it directly or through the references of projects that load, and the file is read as
nothing but the solution. -/
structure Retells (around other : Surroundings) (selection : Selection) (file : Path) (place : Location) :
    Prop where
  alike : Alike (· = place) around other
  leads : around.seek true file.toString = .ok place
  kept : ∀ path ∈ around.startPaths file, around.Reached (other.startPaths file) path
  added : ∀ path ∈ other.startPaths file, around.Reached (around.startPaths file) path
  noProject : ∀ path, around.Reached (around.startPaths file) path → around.AvoidsProject (· = place) path
  noDocument : ∀ document ∈ around.documentsOf selection file, around.Avoids (· = place) document.toString

namespace Retells

variable {selection : Selection} {file : Path} {place : Location}

theorem reached_iff (retells : around.Retells other selection file place) :
    other.Reached (other.startPaths file) path ↔ around.Reached (around.startPaths file) path := by
  have back {path : Path} (reached : around.Reached (other.startPaths file) path) :
      around.Reached (around.startPaths file) path := reached.trans retells.added
  have agrees : around.Agrees other (other.startPaths file) := fun path reached =>
    ⟨retells.alike.isFile_eq _, retells.alike.evaluate_eq (retells.noProject path (back reached))⟩
  rw [agrees.reached_iff]
  exact ⟨back, fun reached => reached.trans retells.kept⟩

theorem settled (retells : around.Retells other selection file place) (settled : around.Settled) :
    other.Settled where
  legal := by
    rw [retells.alike.directory]
    exact settled.legal
  standing := by
    rw [retells.alike.directory]
    intro above prefixed
    exact retells.alike.tree.entry?_eq_of_not_file (settled.standing above prefixed) (by simp [Entry.kind])

/-- The same projects load, and the same is warned, in another order. -/
theorem opened (retells : around.Retells other selection file place) (settled : around.Settled)
    (key : file.IsKey) (ends : (around.openWorkspace file).fault = none)
    (alsoEnds : (other.openWorkspace file).fault = none) :
    (other.openWorkspace file).projects.Perm (around.openWorkspace file).projects ∧
      (other.openWorkspace file).warnings.Perm (around.openWorkspace file).warnings := by
  have speakable : ¬ Unspeakable file := by
    intro unspeakable
    rw [openWorkspace_of_unspeakable unspeakable] at ends
    cases ends
  obtain ⟨old, new, stands, alsoStands⟩ := retells.alike.tree.files place rfl
  have alsoLeads : other.seek true file.toString = .ok place :=
    (retells.alike.seek_eq true file.toString).trans retells.leads
  rw [openWorkspace_eq around speakable, Loading.fault_after] at ends
  rw [openWorkspace_eq other speakable, Loading.fault_after] at alsoEnds
  have told := events_perm settled (retells.settled settled) (isStart_startPaths around key.proper)
    (isStart_startPaths other key.proper) (fun path member => isKey_of_mem_startPaths key member)
    (fun path member => isKey_of_mem_startPaths key member) (fun path => retells.reached_iff)
    (fun path reached => retells.alike.visit_eq (retells.noProject path reached)) ends alsoEnds
  rw [openWorkspace_eq around speakable, openWorkspace_eq other speakable, projects_announced,
    projects_announced, Loading.warnings_after, Loading.warnings_after,
    warnings_announced speakable retells.leads stands, warnings_announced speakable alsoLeads alsoStands]
  exact ⟨told.filterMap _, told.filterMap _⟩

theorem harvested (retells : around.Retells other selection file place) (settled : around.Settled)
    (key : file.IsKey) (ends : (around.openWorkspace file).fault = none)
    (alsoEnds : (other.openWorkspace file).fault = none) :
    (other.documentsOf selection file).Perm (around.documentsOf selection file) ∧
      (other.reap Harvest.empty (other.documentsOf selection file)).tally =
        (around.reap Harvest.empty (around.documentsOf selection file)).tally ∧
      (other.reap Harvest.empty (other.documentsOf selection file)).failures.Perm
        (around.reap Harvest.empty (around.documentsOf selection file)).failures := by
  obtain ⟨projects, _⟩ := retells.opened settled key ends alsoEnds
  have documents : (other.documentsOf selection file).Perm (around.documentsOf selection file) :=
    Selection.documents_perm projects
  have avoids {document : Path} (member : document ∈ other.documentsOf selection file) :
      around.Avoids (· = place) document.toString :=
    retells.noDocument document (documents.mem_iff.mp member)
  have imported : ((other.documentsOf selection file).flatMap other.importedBy).Perm
      ((around.documentsOf selection file).flatMap around.importedBy) :=
    documents.flatMap fun document member => .of_eq (retells.alike.importedBy_eq (avoids member))
  have failed : (other.documentsOf selection file).filterMap other.failureOf? =
      (other.documentsOf selection file).filterMap around.failureOf? :=
    List.filterMap_congr fun document member => retells.alike.failureOf?_eq (avoids member)
  have counted := Tally.addAll_perm Harvest.empty.tally imported
  have told := (documents.filterMap around.failureOf?).append_left Harvest.empty.failures
  rw [reap_eq, reap_eq, failed]
  refine ⟨documents, ?_, told⟩
  dsimp only
  rw [counted]

end Retells
end Surroundings

theorem Commission.yields_census {commission : Commission} {around : Surroundings}
    {modules : List GrammarModule} {disturbance : Option Disturbance} {options : CensusOptions}
    {census : Census} (ran : (commission.census around modules disturbance options).follow.1 = .ok census) :
    ∃ goal before after, commission.Leads around goal ∧
      (around.census modules disturbance options goal).Yields before census after := by
  obtain ⟨_, yields⟩ := Course.yields_of_follow ran
  cases commission with
  | path text =>
    obtain ⟨_, _, _, yields⟩ := Course.yields_bind_iff.mp yields
    obtain ⟨goal, _, resolves, yields⟩ := Course.yields_bind_iff.mp yields
    exact ⟨goal, _, _, (Course.yields_attempt_iff.mp resolves).1, yields⟩
  | target given =>
    obtain ⟨_, _, _, yields⟩ := Course.yields_bind_iff.mp yields
    exact ⟨given, _, _, rfl, yields⟩

theorem Commission.Leads.unique {commission : Commission} {around : Surroundings} {goal target : Target}
    (leads : commission.Leads around goal) (also : commission.Leads around target) : goal = target := by
  cases commission with
  | path text => exact Except.ok.inj (leads.symm.trans also)
  | target given => exact leads.symm.trans also

namespace Surroundings

variable {around other : Surroundings} {commission : Commission} {goal : Target}

theorem Alike.leads_iff {apart : Location → Prop} (alike : Alike apart around other) :
    commission.Leads other goal ↔ commission.Leads around goal := by
  cases commission with
  | path text =>
    change other.resolveTarget text = .ok goal ↔ around.resolveTarget text = .ok goal
    rw [alike.resolveTarget_eq]
  | target given => exact Iff.rfl

/-! ### Without links -/

/-- Without links, a key leads nowhere but along its own names. -/
theorem avoids_of_linkless (linkless : around.Linkless) {path : Path} (key : path.IsKey) {place : Location}
    (different : path.parts ≠ place) : around.Avoids (· = place) path.toString := by
  intro location leads same
  have origin : around.origin path = [] := if_pos key.absolute
  have walked : ∃ links, around.tree.Walk [] path.parts links location := by
    obtain ⟨_, leads⟩ := (seek_toString_eq_ok_iff key.proper).mp leads
    rw [origin] at leads
    by_cases named : path.parts = []
    · rw [steps_of_bare named] at leads
      rw [(FileTree.follow_stay leads).1, named]
      exact ⟨0, .done []⟩
    · rw [key.proper.steps named] at leads
      exact FileTree.walk_of_follow leads
  obtain ⟨links, walk⟩ := walked
  have along := walk.plain key.named fun place _ target => linkless.plain _ target
  rw [List.nil_append] at along
  exact different (along.symm.trans same)

/-- Without links, a file whose name tells no language is read as no project. -/
theorem avoidsProject_of_linkless (settled : around.Settled) (linkless : around.Linkless) {path : Path}
    (proper : path.Proper) {place : Location} (unknown : Language.of? ⟨.root, place⟩ = none) :
    around.AvoidsProject (· = place) path := by
  intro language known
  refine avoids_of_linkless linkless (isKey_projectKey settled proper) fun same => ?_
  have last : (around.projectKey path).name = (Path.mk .root place).name := by
    unfold Path.name
    rw [same]
  rw [Language.of?_congr last, unknown] at known
  cases known

/-- Two texts of one solution whose entries lead to the same projects are counted alike. -/
theorem census_retold {modules : List GrammarModule} {disturbance : Option Disturbance}
    {options : CensusOptions} {place : Location} {first second : Census} (settled : around.Settled)
    (named : around.Named) (resolved : ∀ given, commission = .target given → given.resolved.IsKey)
    (leads : commission.Leads around goal)
    (retells : around.Retells other options.selection goal.resolved place)
    (ran : (commission.census around modules disturbance options).follow.1 = .ok first)
    (also : (commission.census other modules disturbance options).follow.1 = .ok second) :
    second.rows = first.rows ∧ second.documents = first.documents ∧ second.warnings.Perm first.warnings := by
  obtain ⟨reached, _, _, leadsThere, yields⟩ := Commission.yields_census ran
  obtain ⟨alsoReached, _, _, alsoLeads, alsoYields⟩ := Commission.yields_census also
  have key : goal.resolved.IsKey := by
    cases commission with
    | path text => exact isKey_of_resolveTarget settled named leads
    | target given => exact (show given = goal from leads) ▸ resolved given rfl
  cases Commission.Leads.unique leadsThere leads
  cases Commission.Leads.unique (retells.alike.leads_iff.mp alsoLeads) leads
  obtain ⟨loading, chosen, rows, opened, ends, selected, ranked, told⟩ := yields_census yields
  obtain ⟨loadingToo, chosenToo, rowsToo, alsoOpened, alsoEnds, alsoSelected, alsoRanked, alsoTold⟩ :=
    yields_census alsoYields
  rw [opened] at ends
  rw [alsoOpened] at alsoEnds
  obtain ⟨projects, warnings⟩ := retells.opened settled key ends alsoEnds
  obtain ⟨documents, counted, failed⟩ := retells.harvested settled key ends alsoEnds
  unfold documentsOf at documents counted failed
  rw [← opened, ← alsoOpened] at projects warnings documents counted failed
  rw [← selected, ← alsoSelected] at documents counted failed
  rw [counted, ranked] at alsoRanked
  subst told alsoTold
  refine ⟨(Except.ok.inj alsoRanked).symm, documents.length_eq, ?_⟩
  exact (warnings.append (Selection.warnings_perm projects)).append failed

/-- A line of a solution for a project next to it. -/
def entryLine (name : String) : String :=
  "Project(\"\x7bA\x7d\") = \"" ++ name ++ "\", \"" ++ name ++ ".csproj\", \"\x7bB\x7d\"\n"

def retoldSample (text : String) : Surroundings where
  tree := [
    (["r", "s.sln"], text),
    (["r", "a.csproj"],
      "<P><Compile Include='a.cs'/><ProjectReference Include='b.csproj;m.csproj'/></P>"),
    (["r", "b.csproj"], "<P><Compile Include='b.cs'/></P>"),
    (["r", "a.cs"], "using A;"),
    (["r", "b.cs"], "using A;")].foldl
      (fun tree (location, text) => tree.plant location (.file (Text.Utf8.ofString text))) FileTree.empty
  directory := ["r"]
  home := "/r"

/-- One solution names the second project, the other the missing one and the first project twice. -/
theorem census_retold_sample :
    ∃ around other : Surroundings, ∃ options goal first second,
      (Commission.path "s.sln").Leads around goal ∧
      around.startPaths goal.resolved = [⟨.root, ["r", "a.csproj"]⟩, ⟨.root, ["r", "b.csproj"]⟩] ∧
      other.startPaths goal.resolved =
        [⟨.root, ["r", "m.csproj"]⟩, ⟨.root, ["r", "a.csproj"]⟩, ⟨.root, ["r", "a.csproj"]⟩] ∧
      ((Commission.path "s.sln").census around [Grammar.bundled] none options).follow.1 = .ok first ∧
      ((Commission.path "s.sln").census other [Grammar.bundled] none options).follow.1 = .ok second ∧
      first.rows = [⟨"A", 2⟩] ∧
      second.rows = first.rows ∧ second.documents = first.documents ∧ second.warnings.Perm first.warnings := by
  let around := retoldSample (entryLine "a" ++ entryLine "b")
  let other := around.rewritten ["r", "s.sln"]
    (Text.Utf8.ofString (entryLine "m" ++ entryLine "a" ++ entryLine "a"))
  let options : CensusOptions := ⟨none, none, ⟨[], [], none⟩, "tree_sitter_c_sharp"⟩
  let goal : Target := ⟨"s.sln", ⟨.root, ["r", "s.sln"]⟩, .file⟩
  let census : Census := ⟨⟨.root, ["r", "s.sln"]⟩, [⟨"A", 2⟩],
    ["Project file not found: /r/m.csproj"], 2⟩
  have settled : around.Settled :=
    settled_of_directory rfl (by unfold FileTree.Legal; decide) (by decide +kernel)
  have named : around.Named := by
    unfold Named
    decide +kernel
  have linkless : around.Linkless := by
    unfold Linkless
    decide +kernel
  have leads : (Commission.path "s.sln").Leads around goal := by
    change around.resolveTarget "s.sln" = .ok goal
    decide +kernel
  have ran : ((Commission.path "s.sln").census around [Grammar.bundled] none options).follow.1 = .ok census := by
    decide +kernel
  have also : ((Commission.path "s.sln").census other [Grammar.bundled] none options).follow.1 = .ok census := by
    decide +kernel
  have stands : around.tree.entry? ["r", "s.sln"] =
      some (.file (Text.Utf8.ofString (entryLine "a" ++ entryLine "b"))) := by decide +kernel
  have starts : around.startPaths goal.resolved =
      [⟨.root, ["r", "a.csproj"]⟩, ⟨.root, ["r", "b.csproj"]⟩] := by decide +kernel
  have others : other.startPaths goal.resolved =
      [⟨.root, ["r", "m.csproj"]⟩, ⟨.root, ["r", "a.csproj"]⟩, ⟨.root, ["r", "a.csproj"]⟩] := by
    decide +kernel
  have a : around.Reached (around.startPaths goal.resolved) ⟨.root, ["r", "a.csproj"]⟩ :=
    .start (by rw [starts]; decide)
  have alsoA : around.Reached (other.startPaths goal.resolved) ⟨.root, ["r", "a.csproj"]⟩ :=
    .start (by rw [others]; decide)
  have refers : ∃ project reports, around.isFile "/r/a.csproj" = true ∧
      around.evaluate ⟨.root, ["r", "a.csproj"]⟩ = .ok (project, reports) ∧
      project.references = [⟨.root, ["r", "b.csproj"]⟩, ⟨.root, ["r", "m.csproj"]⟩] :=
    ⟨⟨⟨.root, ["r", "a.csproj"]⟩, "a", some .csharp, [⟨.root, ["r", "a.cs"]⟩],
      [⟨.root, ["r", "b.csproj"]⟩, ⟨.root, ["r", "m.csproj"]⟩]⟩, [], by decide +kernel⟩
  obtain ⟨project, reports, isFile, evaluates, references⟩ := refers
  have documents : around.documentsOf options.selection goal.resolved =
      [⟨.root, ["r", "a.cs"]⟩, ⟨.root, ["r", "b.cs"]⟩] := by decide +kernel
  have retells : around.Retells other options.selection goal.resolved ["r", "s.sln"] := {
    alike := alike_rewritten stands _
    leads := by decide +kernel
    kept := by
      rw [starts]
      refine List.forall_mem_cons.mpr ⟨alsoA, List.forall_mem_singleton.mpr ?_⟩
      exact .reference alsoA isFile evaluates (by rw [references]; decide)
    added := by
      rw [others]
      refine List.forall_mem_cons.mpr ⟨?_, List.forall_mem_cons.mpr ⟨a, List.forall_mem_singleton.mpr a⟩⟩
      exact .reference a isFile evaluates (by rw [references]; decide)
    noProject := fun path reached => avoidsProject_of_linkless settled linkless
      (reached.spelled settled (isStart_startPaths around (by unfold Path.Proper; decide))).1 (by decide)
    noDocument := by
      have key {name : String} (part : Path.isPart name = true ∧ '/' ∉ name.toList) (dots : ".." ≠ name) :
          (Path.mk .root ["r", name]).IsKey :=
        ⟨List.forall_mem_cons.mpr ⟨by decide, List.forall_mem_singleton.mpr part⟩, rfl, 0, ["r", name], rfl,
          by simp [dots], fun _ => rfl⟩
      rw [documents]
      refine List.forall_mem_cons.mpr ⟨?_, List.forall_mem_singleton.mpr ?_⟩
      · exact avoids_of_linkless linkless (key (by decide) (by decide)) (by decide)
      · exact avoids_of_linkless linkless (key (by decide) (by decide)) (by decide) }
  exact ⟨around, other, options, goal, census, census, leads, starts, others, ran, also, rfl,
    census_retold settled named (fun given other => by cases other) leads retells ran also⟩

/-- A solution that its only project compiles, with a line after its entry. -/
def compiledSolution (line : String) : Surroundings where
  tree := [
    (["r", "s.sln"], "/*\n" ++ entryLine "a" ++ "*/\n" ++ line),
    (["r", "a.csproj"], "<P><Compile Include='s.sln'/></P>")].foldl
      (fun tree (location, text) => tree.plant location (.file (Text.Utf8.ofString text))) FileTree.empty
  directory := ["r"]
  home := "/r"

/-- A solution that counts as a document tells more than its entries. -/
theorem compiledSolution_rows_ne :
    ∃ around other : Surroundings, ∃ options goal first second,
      around.Settled ∧ around.Named ∧ Alike (· = ["r", "s.sln"]) around other ∧
      (Commission.path "s.sln").Leads around goal ∧
      around.seek true goal.resolved.toString = .ok ["r", "s.sln"] ∧
      other.startPaths goal.resolved = around.startPaths goal.resolved ∧
      ((Commission.path "s.sln").census around [Grammar.bundled] none options).follow.1 = .ok first ∧
      ((Commission.path "s.sln").census other [Grammar.bundled] none options).follow.1 = .ok second ∧
      first.rows ≠ second.rows := by
  let around := compiledSolution "using X;\n"
  let other := around.rewritten ["r", "s.sln"] (Text.Utf8.ofString ("/*\n" ++ entryLine "a" ++ "*/\n"))
  let options : CensusOptions := ⟨none, none, ⟨[], [], none⟩, "tree_sitter_c_sharp"⟩
  let goal : Target := ⟨"s.sln", ⟨.root, ["r", "s.sln"]⟩, .file⟩
  have settled : around.Settled :=
    settled_of_directory rfl (by unfold FileTree.Legal; decide) (by decide +kernel)
  have named : around.Named := by
    unfold Named
    decide +kernel
  have stands : around.tree.entry? ["r", "s.sln"] =
      some (.file (Text.Utf8.ofString ("/*\n" ++ entryLine "a" ++ "*/\n" ++ "using X;\n"))) := by decide +kernel
  refine ⟨around, other, options, goal, ⟨goal.resolved, [⟨"X", 1⟩], [], 1⟩, ⟨goal.resolved, [], [], 1⟩, settled,
    named, alike_rewritten stands _, ?_, by decide +kernel, by decide +kernel, by decide +kernel,
    by decide +kernel, by decide⟩
  change around.resolveTarget "s.sln" = .ok goal
  decide +kernel

end Surroundings
end UsingCensus
