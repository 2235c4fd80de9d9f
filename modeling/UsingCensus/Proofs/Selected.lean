import Mathlib.Data.List.Flatten
import UsingCensus.Proofs.Exclusions
import UsingCensus.Proofs.Reordering
import UsingCensus.Proofs.TourOutcomes

/-!
Selected documents. Main statement: exactly the documents of C# projects count that are not left out, in their order;
so a selection with more endings and more patterns selects no other documents, and no name is counted more often.
-/
namespace UsingCensus

namespace Selection

variable {selection stricter : Selection} {document : Path} {projects : List Project}

/-- The documents that a selection leaves out: by the end of their name, or by their path from the root on. -/
def LeavesOut (selection : Selection) (document : Path) : Prop :=
  (∃ ending ∈ selection.generatedFiles, ending.toList <:+ document.name.toList) ∨
    ∃ root text, selection.excludeRoot = some root ∧ document.GoesOn root text ∧
      ∃ pattern ∈ selection.excludePaths, Strikes pattern text

theorem leavesOut_iff :
    selection.LeavesOut document ↔ selection.isGenerated document = true ∨ selection.isExcluded document = true := by
  rw [isExcluded_iff]
  simp only [LeavesOut, isGenerated, List.any_eq_true, Text.endsIn_iff, covers_iff_strikes]

instance : DecidablePred selection.LeavesOut := fun _ => decidable_of_iff _ leavesOut_iff.symm

theorem judge_of_leavesOut (left : selection.LeavesOut document) :
    selection.judge document = none ∨ selection.judge document = some (.excluded document) := by
  unfold judge
  by_cases generated : selection.isGenerated document = true
  · exact .inl (if_pos generated)
  · have excluded := (leavesOut_iff.mp left).resolve_left generated
    rw [if_neg generated, if_pos excluded]
    exact .inr rfl

theorem judge_of_not_leavesOut (counts : ¬ selection.LeavesOut document) :
    selection.judge document = some (.selected document) := by
  rw [leavesOut_iff, not_or] at counts
  unfold judge
  rw [if_neg counts.1, if_neg counts.2]

private def selectedOf (events : List SelectionEvent) : List Path :=
  events.filterMap fun
    | .selected document => some document
    | _ => none

private theorem selectedOf_judge (selection : Selection) (documents : List Path) :
    selectedOf (documents.filterMap selection.judge) =
      documents.filter fun document => ¬ selection.LeavesOut document := by
  induction documents with
  | nil => rfl
  | cons document rest ih =>
    by_cases left : selection.LeavesOut document
    · rw [List.filter_cons_of_neg (by simpa using left), ← ih]
      rcases judge_of_leavesOut left with silent | told
      · rw [List.filterMap_cons_none silent]
      · rw [List.filterMap_cons_some told]
        rfl
    · rw [List.filter_cons_of_pos (by simpa using left), ← ih, List.filterMap_cons_some (judge_of_not_leavesOut left)]
      rfl

theorem documents_eq (selection : Selection) (projects : List Project) :
    selection.documents projects =
      ((projects.filter fun project => project.language = some .csharp).flatMap Project.documents).filter
        fun document => ¬ selection.LeavesOut document := by
  change selectedOf (selection.review projects) = _
  induction projects with
  | nil => rfl
  | cons project rest ih =>
    have parts : selectedOf (selection.review (project :: rest)) =
        selectedOf (selection.review [project]) ++ selectedOf (selection.review rest) := by
      unfold selectedOf review
      rw [List.flatMap_cons, List.filterMap_append, List.flatMap_singleton]
    rw [parts, ih, review, List.flatMap_singleton]
    by_cases csharp : project.language = some .csharp
    · rw [if_pos csharp, selectedOf_judge, List.filter_cons_of_pos (by simpa using csharp), List.flatMap_cons,
        List.filter_append]
    · rw [if_neg csharp, List.filter_cons_of_neg (by simpa using csharp)]
      rfl

/-- The stricter selection has all endings and patterns, and the same root. -/
structure Narrows (selection stricter : Selection) : Prop where
  generatedFiles : selection.generatedFiles ⊆ stricter.generatedFiles
  excludePaths : selection.excludePaths ⊆ stricter.excludePaths
  excludeRoot : stricter.excludeRoot = selection.excludeRoot

namespace Narrows

theorem leavesOut (narrows : selection.Narrows stricter) (left : selection.LeavesOut document) :
    stricter.LeavesOut document := by
  rcases left with ⟨ending, member, ends⟩ | ⟨root, text, given, below, pattern, member, struck⟩
  · exact .inl ⟨ending, narrows.generatedFiles member, ends⟩
  · exact .inr ⟨root, text, narrows.excludeRoot.trans given, below, pattern, narrows.excludePaths member, struck⟩

theorem documents_sublist (narrows : selection.Narrows stricter) (projects : List Project) :
    (stricter.documents projects).Sublist (selection.documents projects) := by
  rw [documents_eq, documents_eq]
  apply List.monotone_filter_right
  intro document kept
  simp only [decide_eq_true_eq] at kept ⊢
  exact fun left => kept (narrows.leavesOut left)

end Narrows

/-- What is selected of projects, and what is warned about. -/
structure Selects (selection : Selection) (projects : List Project) : Prop where
  documents : selection.documents projects =
    ((projects.filter fun project => project.language = some .csharp).flatMap Project.documents).filter
      fun document => ¬ selection.LeavesOut document
  warnings : selection.warnings projects =
    (projects.filter fun project => project.language ≠ some .csharp).map fun project =>
      "Skipping non-C# project: " ++ project.path.toString

theorem selects (selection : Selection) (projects : List Project) : selection.Selects projects where
  documents := documents_eq selection projects
  warnings := warnings_eq selection projects

end Selection

/-! ### Counts of two runs -/

def Surroundings.timesImported (around : Surroundings) (documents : List Path) (name : String) : Nat :=
  (documents.flatMap around.importedBy).count name

namespace Census.Accounts

variable {around : Surroundings} {options : CensusOptions} {file : Path} {census : Census} {row : Row} {name : String}

theorem counted (accounts : census.Accounts around options file) (member : row ∈ census.rows) :
    0 < around.timesImported (around.documentsOf options.selection file) row.name ∧
      row.count = around.timesImported (around.documentsOf options.selection file) row.name := by
  obtain ⟨full, _, listed, _, cut⟩ := accounts.rows
  have within : row ∈ full := by
    rw [cut] at member
    split at member
    · exact member
    · exact List.mem_of_mem_take member
  obtain ⟨imported, count⟩ := (listed row).mp within
  exact ⟨List.count_pos_iff.mpr (List.mem_flatMap.mpr imported), count⟩

theorem exists_row (accounts : census.Accounts around options file) (unlimited : options.count = none)
    (imported : 0 < around.timesImported (around.documentsOf options.selection file) name) :
    ∃ row ∈ census.rows, row.name = name := by
  obtain ⟨full, _, listed, _, cut⟩ := accounts.rows
  have all : census.rows = full := by rw [cut, unlimited]
  have member := (listed ⟨name, around.timesImported (around.documentsOf options.selection file) name⟩).mpr
    ⟨List.mem_flatMap.mp (List.count_pos_iff.mp imported), rfl⟩
  exact ⟨_, all ▸ member, rfl⟩

end Census.Accounts

/-- A run of a census: it reads the documents in turn, whatever disturbs it, or it is an undisturbed tour, whatever the
schedule of its workers. -/
inductive Commission.Brings (commission : Commission) (around : Surroundings) (modules : List GrammarModule)
    (options : CensusOptions) (census : Census) : Prop
  | inTurn {disturbance : Option Disturbance}
      (ran : (commission.census around modules disturbance options).follow.1 = .ok census) :
      Brings commission around modules options census
  | tour {fitting : Nat} {trace : List TourEvent} {tour : Tour}
      (undisturbed : ∀ event ∈ trace, event.isDisturbance = false)
      (ran : Tour.run around modules options fitting commission trace = some tour)
      (ended : tour.stage = .ended (.ok census)) : Brings commission around modules options census

theorem Commission.Brings.accounts {commission : Commission} {around : Surroundings} {modules : List GrammarModule}
    {options : CensusOptions} {census : Census} (brings : commission.Brings around modules options census) :
    ∃ goal, commission.Leads around goal ∧ census.Accounts around options goal.resolved := by
  obtain ⟨disturbance, ran⟩ : ∃ disturbance,
      (commission.census around modules disturbance options).follow.1 = .ok census := by
    cases brings with
    | @inTurn disturbance ran => exact ⟨disturbance, ran⟩
    | tour undisturbed ran ended => exact ⟨none, ((Tour.untroubled_run undisturbed ran).agrees ended).symm⟩
  obtain ⟨goal, _, _, leads, yields⟩ := Commission.yields_census ran
  exact ⟨goal, leads, Surroundings.accounts_of_yields yields⟩

/-- A census and one with a stricter selection: no name is counted more often in the second. -/
structure Census.NoMore (around : Surroundings) (file : Path) (options stricter : CensusOptions)
    (first second : Census) : Prop where
  documents : (around.documentsOf stricter.selection file).Sublist (around.documentsOf options.selection file)
  imported (name : String) : around.timesImported (around.documentsOf stricter.selection file) name ≤
    around.timesImported (around.documentsOf options.selection file) name
  rows : ∀ row ∈ second.rows, row.count ≤ around.timesImported (around.documentsOf options.selection file) row.name
  both : ∀ row ∈ second.rows, ∀ other ∈ first.rows, other.name = row.name → row.count ≤ other.count
  /-- What the first leaves out it leaves out for its limit only. -/
  shown : options.count = none →
    ∀ row ∈ second.rows, ∃ other ∈ first.rows, other.name = row.name ∧ row.count ≤ other.count

theorem Census.noMore {around : Surroundings} {file : Path} {options stricter : CensusOptions} {first second : Census}
    (narrows : options.selection.Narrows stricter.selection) (one : first.Accounts around options file)
    (other : second.Accounts around stricter file) : NoMore around file options stricter first second := by
  have within : (around.documentsOf stricter.selection file).Sublist (around.documentsOf options.selection file) :=
    narrows.documents_sublist _
  have imported (name : String) : around.timesImported (around.documentsOf stricter.selection file) name ≤
      around.timesImported (around.documentsOf options.selection file) name :=
    (within.flatMap around.importedBy).count_le name
  have rows (row : Row) (member : row ∈ second.rows) :
      row.count ≤ around.timesImported (around.documentsOf options.selection file) row.name := by
    rw [(other.counted member).2]
    exact Int.ofNat_le.mpr (imported row.name)
  have both (row : Row) (member : row ∈ second.rows) (before : Row) (shown : before ∈ first.rows)
      (same : before.name = row.name) : row.count ≤ before.count := by
    rw [(one.counted shown).2, same]
    exact rows row member
  refine ⟨within, imported, rows, both, ?_⟩
  intro unlimited row member
  have positive := Nat.lt_of_lt_of_le (other.counted member).1 (imported row.name)
  obtain ⟨before, shown, same⟩ := one.exists_row unlimited positive
  exact ⟨before, shown, same, both row member before shown same⟩

/-- A selection selects the documents of C# projects that it does not leave out. A stricter one selects some of them,
and in no run counts a name more often. -/
theorem Selection.selects_narrowed (selection : Selection) :
    (∀ projects, selection.Selects projects) ∧
    ∀ stricter, selection.Narrows stricter →
      (∀ projects, (stricter.documents projects).Sublist (selection.documents projects)) ∧
      ∀ (around : Surroundings) (modules : List GrammarModule) (commission : Commission)
        (options others : CensusOptions) (first second : Census),
        options.selection = selection → others.selection = stricter →
        commission.Brings around modules options first → commission.Brings around modules others second →
        ∃ goal, commission.Leads around goal ∧ Census.NoMore around goal.resolved options others first second := by
  refine ⟨selection.selects, fun stricter narrows => ⟨narrows.documents_sublist, ?_⟩⟩
  rintro around modules commission options others first second rfl rfl ran also
  obtain ⟨goal, leads, one⟩ := ran.accounts
  obtain ⟨target, alsoLeads, other⟩ := also.accounts
  cases leads.unique alsoLeads
  exact ⟨goal, leads, Census.noMore narrows one other⟩

def selectedSample : Surroundings where
  tree := [
    (["r", "a.csproj"],
      "<P><Compile Include='a.cs'/><ProjectReference Include='v.vbproj;old/c.csproj'/></P>"),
    (["r", "v.vbproj"], "<P/>"),
    (["r", "old", "c.csproj"], "<P><Compile Include='c.cs'/></P>"),
    (["r", "a.cs"], "using A;"),
    (["r", "old", "c.cs"], "using A;")].foldl
      (fun tree (location, text) => tree.plant location (.file (Text.Utf8.ofString text))) FileTree.empty
  directory := ["r"]
  home := "/r"

theorem Selection.selects_narrowed_sample :
    ∃ (options others : CensusOptions) (goal : Target) (first second : Census),
      options.selection.Narrows others.selection ∧
      (Commission.path "a.csproj").Brings selectedSample [Grammar.bundled] options first ∧
      (Commission.path "a.csproj").Brings selectedSample [Grammar.bundled] others second ∧
      first.rows = [⟨"A", 2⟩] ∧ second.rows = [⟨"A", 1⟩] ∧
      (Commission.path "a.csproj").Leads selectedSample goal ∧
      Census.NoMore selectedSample goal.resolved options others first second := by
  let options : CensusOptions := ⟨none, none, ⟨[], [], some ⟨.root, ["r"]⟩⟩, "tree_sitter_c_sharp"⟩
  let others : CensusOptions := ⟨none, none, ⟨[".g.cs"], ["o?d/*"], some ⟨.root, ["r"]⟩⟩, "tree_sitter_c_sharp"⟩
  let goal : Target := ⟨"a.csproj", ⟨.root, ["r", "a.csproj"]⟩, .file⟩
  let skipped := ["Skipping non-C# project: /r/v.vbproj"]
  let first : Census := ⟨goal.resolved, [⟨"A", 2⟩], skipped, 2⟩
  let second : Census := ⟨goal.resolved, [⟨"A", 1⟩], skipped, 1⟩
  have narrows : options.selection.Narrows others.selection := ⟨by decide, by decide, rfl⟩
  have inTurn : ((Commission.path "a.csproj").census selectedSample [Grammar.bundled] none options).follow.1 =
      .ok first := by decide +kernel
  have alsoInTurn : ((Commission.path "a.csproj").census selectedSample [Grammar.bundled] none others).follow.1 =
      .ok second := by decide +kernel
  have ran : (Commission.path "a.csproj").Brings selectedSample [Grammar.bundled] options first := .inTurn inTurn
  have also : (Commission.path "a.csproj").Brings selectedSample [Grammar.bundled] others second := .inTurn alsoInTurn
  obtain ⟨goal, leads, noMore⟩ :=
    ((selects_narrowed options.selection).2 others.selection narrows).2 selectedSample [Grammar.bundled]
      (.path "a.csproj") options others first second rfl rfl ran also
  exact ⟨options, others, goal, first, second, narrows, ran, also, rfl, rfl, leads, noMore⟩

end UsingCensus
