import UsingCensus.Census.Run
import UsingCensus.Proofs.Harvesting
import UsingCensus.Proofs.Ranked

/-!
What a census tells. Main statement: the rows of a census are the names that the selected documents of its
workspace import, each with the number of all its occurrences, and its warnings are those of loading, of the
projects that are passed over and of the documents that cannot be read, in this order.
-/
namespace UsingCensus

namespace Selection

private theorem filterMap_judge_eq_nil {tell : SelectionEvent → Option String}
    (excluded : ∀ document, tell (.excluded document) = none)
    (selected : ∀ document, tell (.selected document) = none) (selection : Selection)
    (documents : List Path) : (documents.filterMap selection.judge).filterMap tell = [] := by
  apply List.filterMap_eq_nil_iff.mpr
  intro event member
  obtain ⟨document, _, judged⟩ := List.mem_filterMap.mp member
  unfold judge at judged
  split at judged
  · cases judged
  · split at judged
    · cases judged
      exact excluded document
    · cases judged
      exact selected document

theorem warnings_eq (selection : Selection) (projects : List Project) :
    selection.warnings projects =
      (projects.filter fun project => project.language ≠ some .csharp).map fun project =>
        skippedProject project.path := by
  induction projects with
  | nil => rfl
  | cons project rest ih =>
    unfold warnings review at ih ⊢
    rw [List.flatMap_cons, List.filterMap_append, ih]
    by_cases csharp : project.language = some .csharp
    · rw [if_pos csharp, filterMap_judge_eq_nil (fun _ => rfl) (fun _ => rfl)]
      simp [csharp]
    · simp [csharp]

end Selection

def Surroundings.documentsOf (around : Surroundings) (selection : Selection) (file : Path) : List Path :=
  selection.documents (around.openWorkspace file).projects

/-- What a census tells about the workspace of a file: rows with exact counts, the number of the documents,
and all warnings in order. -/
structure Census.Accounts (around : Surroundings) (options : CensusOptions) (file : Path)
    (census : Census) : Prop where
  workItem : census.workItem = file
  loaded : (around.openWorkspace file).fault = none
  rows : ∃ full : List Row, full.Pairwise Row.Before ∧
    (∀ row, row ∈ full ↔
      (∃ document ∈ around.documentsOf options.selection file, row.name ∈ around.importedBy document) ∧
      row.count =
        ((around.documentsOf options.selection file).flatMap around.importedBy).count row.name) ∧
    (∀ size, options.count = some size → 0 ≤ size) ∧
    census.rows = match options.count with
      | none => full
      | some size => full.take size.toNat
  documents : census.documents = (around.documentsOf options.selection file).length
  warnings : census.warnings = (around.openWorkspace file).warnings ++
    ((around.openWorkspace file).projects.filter fun project =>
      project.language ≠ some .csharp).map (fun project =>
        "Skipping non-C# project: " ++ project.path.toString) ++
    (around.documentsOf options.selection file).filterMap around.failureOf?

namespace Course

theorem yields_load {around : Surroundings} {disturbance : Option Disturbance} {file : Path}
    (ran : (load around disturbance file).Yields before loading after) :
    loading = around.openWorkspace file ∧ loading.fault = none := by
  unfold load at ran
  obtain ⟨_, _, _, ran⟩ := yields_bind_iff.mp ran
  obtain ⟨_, _, _, ran⟩ := yields_bind_iff.mp ran
  split at ran
  · obtain ⟨_, _, thrown, _⟩ := yields_bind_iff.mp ran
    exact absurd thrown not_yields_throw
  · rename_i faultless
    obtain ⟨_, _, _, ran⟩ := yields_bind_iff.mp ran
    obtain ⟨_, _, _, ran⟩ := yields_bind_iff.mp ran
    refine ⟨(yields_pure_iff.mp ran).1, ?_⟩
    rw [(yields_pure_iff.mp ran).1]
    cases fault : (around.openWorkspace file).fault with
    | none => rfl
    | some cause => exact absurd fault (faultless cause)

theorem yields_select {selection : Selection} {projects : List Project}
    (ran : (select selection projects).Yields before documents after) :
    documents = selection.documents projects := by
  unfold select at ran
  obtain ⟨_, _, _, ran⟩ := yields_bind_iff.mp ran
  obtain ⟨_, _, _, ran⟩ := yields_bind_iff.mp ran
  exact (yields_pure_iff.mp ran).1

end Course

namespace Surroundings

private theorem mem_ranking_reap_iff (around : Surroundings) (documents : List Path) (row : Row) :
    row ∈ ranking (around.reap Harvest.empty documents).tally.snapshot ↔
      (∃ document ∈ documents, row.name ∈ around.importedBy document) ∧
        row.count = (documents.flatMap around.importedBy).count row.name := by
  rw [mem_ranking_iff, Tally.mem_snapshot_iff, reap_eq, Tally.count_addAll]
  simp only [Harvest.empty, Tally.count_empty, Nat.zero_add]
  rw [← List.mem_flatMap, ← List.count_pos_iff]
  constructor
  · rintro ⟨positive, counted⟩
    exact ⟨by omega, counted.symm⟩
  · rintro ⟨positive, counted⟩
    exact ⟨by omega, counted.symm⟩

theorem yields_census {around : Surroundings} {modules : List GrammarModule}
    {disturbance : Option Disturbance} {options : CensusOptions} {target : Target} {census : Census}
    (ran : (around.census modules disturbance options target).Yields before census after) :
    ∃ loading documents rows,
      loading = around.openWorkspace target.resolved ∧ loading.fault = none ∧
      documents = options.selection.documents loading.projects ∧
      rank options.count (around.reap Harvest.empty documents).tally.snapshot = .ok rows ∧
      census = ⟨target.resolved, rows, loading.warnings ++ options.selection.warnings loading.projects ++
        (around.reap Harvest.empty documents).failures, documents.length⟩ := by
  unfold Surroundings.census at ran
  obtain ⟨_, _, _, ran⟩ := Course.yields_bind_iff.mp ran
  obtain ⟨_, _, _, ran⟩ := Course.yields_bind_iff.mp ran
  obtain ⟨_, _, _, ran⟩ := Course.yields_bind_iff.mp ran
  obtain ⟨loading, _, loads, ran⟩ := Course.yields_bind_iff.mp ran
  obtain ⟨documents, _, selects, ran⟩ := Course.yields_bind_iff.mp ran
  obtain ⟨harvest, _, gathers, ran⟩ := Course.yields_bind_iff.mp ran
  obtain ⟨_, _, _, ran⟩ := Course.yields_bind_iff.mp ran
  obtain ⟨rows, _, ranks, ran⟩ := Course.yields_bind_iff.mp ran
  have gathered := Course.yields_gatherAll gathers
  obtain ⟨opened, faultless⟩ := Course.yields_load loads
  refine ⟨loading, documents, rows, opened, faultless, Course.yields_select selects, ?_, ?_⟩
  · rw [← gathered]
    exact (Course.yields_attempt_iff.mp ranks).1
  · rw [← gathered]
    exact (Course.yields_pure_iff.mp ran).1

theorem accounts_of_yields {around : Surroundings} {modules : List GrammarModule}
    {disturbance : Option Disturbance} {options : CensusOptions} {target : Target} {census : Census}
    (ran : (around.census modules disturbance options target).Yields before census after) :
    census.Accounts around options target.resolved := by
  obtain ⟨loading, documents, rows, opened, faultless, selected, ranked, told⟩ := yields_census ran
  obtain ⟨allowed, cut⟩ := rank_eq_ok_iff.mp ranked
  have counted : around.documentsOf options.selection target.resolved = documents := by
    rw [documentsOf, ← opened, selected]
  subst told
  exact {
    workItem := rfl
    loaded := opened ▸ faultless
    rows := by
      rw [counted]
      exact ⟨_, pairwise_ranking (Tally.nodup_snapshot_names _), mem_ranking_reap_iff around documents,
        allowed, cut⟩
    documents := by rw [counted]
    warnings := by
      rw [counted, ← opened, Selection.warnings_eq, reap_eq]
      rfl }

/-- Every census, be it of a target or of what a path stands for, accounts for the workspace of its work
item: each name in its documents is counted as often as it occurs in them, and nothing else is. -/
theorem census_accounts (around : Surroundings) (modules : List GrammarModule)
    (disturbance : Option Disturbance) (options : CensusOptions) (census : Census) :
    (∀ target, (around.census modules disturbance options target).follow.1 = .ok census →
      census.Accounts around options target.resolved) ∧
    (∀ path, (around.censusAt modules disturbance options path).follow.1 = .ok census →
      ∃ target, around.resolveTarget path = .ok target ∧
        census.Accounts around options target.resolved) := by
  constructor
  · intro target ran
    obtain ⟨_, yields⟩ := Course.yields_of_follow ran
    exact accounts_of_yields yields
  · intro path ran
    obtain ⟨_, yields⟩ := Course.yields_of_follow ran
    unfold censusAt at yields
    obtain ⟨_, _, _, yields⟩ := Course.yields_bind_iff.mp yields
    obtain ⟨target, _, resolves, yields⟩ := Course.yields_bind_iff.mp yields
    exact ⟨target, (Course.yields_attempt_iff.mp resolves).1, accounts_of_yields yields⟩

/-- A project that refers to another C# project, whose source file cannot be decoded, and to a Visual Basic
project. -/
def accountsSample : Surroundings where
  tree := [
    (["r", "a.csproj"], Text.Utf8.ofString
      "<Project><Compile Include='a.cs'/><ProjectReference Include='b.csproj;v.vbproj'/></Project>"),
    (["r", "b.csproj"], Text.Utf8.ofString "<Project><Compile Include='b.cs'/></Project>"),
    (["r", "v.vbproj"], Text.Utf8.ofString "<Project/>"),
    (["r", "a.cs"], Text.Utf8.ofString "using A; using A;"),
    (["r", "b.cs"], [0xFF, 0xFE, 0x00])].foldl
      (fun tree (location, bytes) => tree.plant location (.file bytes)) FileTree.empty
  directory := ["r"]
  home := "/r"

/-- The names of one document count although the other cannot be read. -/
theorem census_accounts_sample :
    ∃ options census,
      (accountsSample.censusAt [Grammar.bundled] none options "a.csproj").follow.1 = .ok census ∧
      census.rows = [⟨"A", 2⟩] ∧ census.warnings.length = 2 ∧
      ∃ target, accountsSample.resolveTarget "a.csproj" = .ok target ∧
        census.Accounts accountsSample options target.resolved := by
  let options : CensusOptions := ⟨some 1, some 2, ⟨[], [], none⟩, "tree_sitter_c_sharp"⟩
  let census : Census := ⟨⟨.root, ["r", "a.csproj"]⟩, [⟨"A", 2⟩],
    ["Skipping non-C# project: /r/v.vbproj",
      "Failed to process document /r/b.cs: 'utf-16-le' codec can't decode byte 0x00 in position 2: " ++
        "truncated data"], 2⟩
  have ran : (accountsSample.censusAt [Grammar.bundled] none options "a.csproj").follow.1 = .ok census := by
    decide +kernel
  exact ⟨options, census, ran, rfl, rfl,
    (census_accounts accountsSample [Grammar.bundled] none options census).2 _ ran⟩

end Surroundings
end UsingCensus
