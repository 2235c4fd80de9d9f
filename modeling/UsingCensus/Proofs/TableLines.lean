import UsingCensus.Proofs.ImportedTexts
import UsingCensus.Proofs.SteadyRuns

/-!
The lines of a table. Main statement: results have a line for each row and a blank one before them if warnings
were shown, and one more for each line break in a name; names stand in the documents with their line breaks.
-/
namespace UsingCensus

theorem newline_not_in_toString (n : Int) : '\n' ∉ (toString n).toList := by
  have plain (m : Nat) : '\n' ∉ (toString m).toList := by
    intro member
    cases Text.isDigit_of_mem_toString member
  cases n with
  | ofNat m => exact plain m
  | negSucc m =>
    change '\n' ∉ ("-" ++ toString (m + 1)).toList
    rw [String.toList_append, List.mem_append]
    rintro (member | member)
    · revert member
      decide
    · exact plain _ member

theorem Row.count_format (row : Row) : row.format.toList.count '\n' = row.name.toList.count '\n' := by
  have digits := List.count_eq_zero_of_not_mem (newline_not_in_toString row.count)
  have padding : (List.replicate (countWidth - (toString row.count).toList.length) ' ').count '\n' = 0 := by
    rw [List.count_replicate, if_neg (by decide)]
  unfold format
  rw [String.toList_ofList, List.count_append, List.count_append, digits, padding, List.count_cons_of_ne]
  · omega
  · decide

theorem Report.count_table (rows : List Row) :
    (table rows).toList.count '\n' = rows.length + (rows.flatMap fun row => row.name.toList).count '\n' := by
  induction rows with
  | nil => rfl
  | cons row rest ih =>
    have split : table (row :: rest) = row.format ++ "\n" ++ table rest := by
      unfold table lines
      rw [List.map_cons, List.map_cons, String.join_cons]
    have ended : "\n".toList.count '\n' = 1 := rfl
    rw [split, String.toList_append, String.toList_append, List.count_append, List.count_append, ih, ended,
      Row.count_format, List.flatMap_cons, List.count_append, List.length_cons]
    omega

namespace Surroundings

theorem exists_imported_of_mem_rows {around : Surroundings} {modules : List GrammarModule}
    {disturbance : Option Disturbance} {options : CensusOptions} {target : Target} {census : Census}
    (counted : (around.census modules disturbance options target).follow.1 = .ok census) {row : Row}
    (member : row ∈ census.rows) :
    ∃ document ∈ around.documentsOf options.selection target.resolved,
      row.name ∈ around.importedBy document := by
  obtain ⟨_, yields⟩ := Course.yields_of_follow counted
  obtain ⟨full, _, known, _, rows⟩ := (accounts_of_yields yields).rows
  have ranked : row ∈ full := by
    rw [rows] at member
    split at member
    · exact member
    · exact List.mem_of_mem_take member
  exact ((known row).mp ranked).1

theorem infix_of_mem_importedBy {around : Surroundings} {document : Path} {name : String}
    (imported : name ∈ around.importedBy document) :
    ∃ bytes, around.readSource document = .ok bytes ∧ name.toList <:+: Text.Utf8.decodeSkipping bytes := by
  unfold importedBy at imported
  cases reading : around.readSource document with
  | error fault =>
    rw [reading] at imported
    cases imported
  | ok bytes =>
    rw [reading] at imported
    exact ⟨bytes, rfl, CSharp.infix_of_mem_importsOfBytes imported⟩

end Surroundings

namespace Session

variable {modules : List GrammarModule} {disturbance : Option Disturbance} {arguments : CommandLine.Arguments}

/-- A run that ends well has taken a census, and its results are a table, after a blank line if warnings were
shown. -/
theorem exists_table (session : Session) (stamp : String) {words : List String}
    (reads : CommandLine.read words = .ok (.run arguments))
    (succeeded : (session.run modules disturbance stamp words).2.ending = .exit .success) :
    ∃ target configuration census,
      (session.prepared arguments).resolveTarget arguments.path = .ok target ∧
      (session.prepared arguments).configurationFor arguments = .ok configuration ∧
      ((session.prepared arguments).census modules disturbance (options arguments configuration)
        target).follow.1 = .ok census ∧
      (session.run modules disturbance stamp words).2.out =
        (if shownWarnings (session.prepared arguments) modules disturbance arguments = [] then "" else "\n") ++
          Report.table census.rows := by
  have ran : (session.run modules disturbance stamp words).2 =
      (session.runArguments modules disturbance stamp arguments).2 := by
    unfold run
    rw [reads]
  rw [ran] at succeeded ⊢
  obtain ⟨outcome, told, verdict, written⟩ := session.runArguments_verdict stamp succeeded
  rw [written] at succeeded ⊢
  unfold Verdict at verdict
  split at verdict
  · rename_i stage message _
    rw [verdict] at succeeded
    have failed : stage.status = .success := Ending.exit.inj succeeded
    exact absurd (congrArg ExitStatus.code failed) stage.code_status_ne_zero
  · obtain ⟨target, configuration, census, resolves, configured, counted, rfl⟩ := verdict
    refine ⟨target, configuration, census, resolves, configured, counted, ?_⟩
    rw [shownWarnings_of_counted resolves configured counted]
    simp only [Outcome.afterErrors, conclude, Report.make]
    cases arguments.noWarn || configuration.noWarn <;> rfl

/-- The results of a run that ends well have a line for each row, a blank one if warnings were shown, and one
more for each line break in a name. A name stands in a document that counts as it is in its row. -/
theorem run_lines (session : Session) (modules : List GrammarModule) (disturbance : Option Disturbance)
    (stamp : String) (words : List String) (arguments : CommandLine.Arguments)
    (reads : CommandLine.read words = .ok (.run arguments))
    (succeeded : (session.run modules disturbance stamp words).2.ending = .exit .success) :
    let around := session.prepared arguments
    let separators := if shownWarnings around modules disturbance arguments = [] then 0 else 1
    let lines := (session.run modules disturbance stamp words).2.out.toList.count '\n'
    ∃ target configuration census,
      around.resolveTarget arguments.path = .ok target ∧
      around.configurationFor arguments = .ok configuration ∧
      (around.census modules disturbance (options arguments configuration) target).follow.1 = .ok census ∧
      lines = census.rows.length + separators + (census.rows.flatMap fun row => row.name.toList).count '\n' ∧
      (lines = census.rows.length + separators ↔ ∀ row ∈ census.rows, '\n' ∉ row.name.toList) ∧
      ∀ row ∈ census.rows,
        ∃ document ∈ around.documentsOf (options arguments configuration).selection target.resolved,
          ∃ bytes, around.readSource document = .ok bytes ∧
            row.name.toList <:+: Text.Utf8.decodeSkipping bytes := by
  intro around separators lines
  obtain ⟨target, configuration, census, resolves, configured, counted, out⟩ :=
    session.exists_table stamp reads succeeded
  have total : lines =
      census.rows.length + separators + (census.rows.flatMap fun row => row.name.toList).count '\n' := by
    have blank : (if shownWarnings around modules disturbance arguments = [] then "" else "\n").toList.count
        '\n' = separators := by
      dsimp only [separators]
      split <;> rfl
    dsimp only [lines]
    rw [out, String.toList_append, List.count_append, blank, Report.count_table]
    omega
  refine ⟨target, configuration, census, resolves, configured, counted, total, ?_, ?_⟩
  · rw [total, Nat.add_eq_left, List.count_eq_zero, List.mem_flatMap]
    simp only [not_exists, not_and]
  · intro row member
    obtain ⟨document, counts, imported⟩ := Surroundings.exists_imported_of_mem_rows counted member
    exact ⟨document, counts, Surroundings.infix_of_mem_importedBy imported⟩

def brokenRowSample : Session := start {
  tree := [
    (["r", "a.csproj"], "<Project><Compile Include='a.cs'/></Project>"),
    (["r", "a.cs"], "using System.\n  Text;")].foldl
      (fun tree (location, text) => tree.plant location (.file (Text.Utf8.ofString text))) FileTree.empty
  directory := ["r"]
  home := "/r" }

/-- Its only row takes two lines. -/
theorem run_lines_sample :
    ∃ arguments, CommandLine.read ["a.csproj"] = .ok (.run arguments) ∧
      (brokenRowSample.run [Grammar.bundled] none "" ["a.csproj"]).2.ending = .exit .success ∧
      shownWarnings (brokenRowSample.prepared arguments) [Grammar.bundled] none arguments = [] ∧
      ∃ rows : List Row, rows = [⟨"System.\n  Text", 1⟩] ∧
        (brokenRowSample.run [Grammar.bundled] none "" ["a.csproj"]).2.out.toList.count '\n' =
          rows.length + 1 := by
  let arguments : CommandLine.Arguments := { CommandLine.Arguments.standard with path := "a.csproj" }
  let target : Target := ⟨"a.csproj", ⟨.root, ["r", "a.csproj"]⟩, .file⟩
  let configuration := Configuration.standard ⟨.root, ["r"]⟩
  let census : Census := ⟨⟨.root, ["r", "a.csproj"]⟩, [⟨"System.\n  Text", 1⟩], [], 1⟩
  let around := brokenRowSample.prepared arguments
  have reads : CommandLine.read ["a.csproj"] = .ok (.run arguments) := by decide +kernel
  have succeeded : (brokenRowSample.run [Grammar.bundled] none "" ["a.csproj"]).2.ending = .exit .success := by
    decide +kernel
  have resolves : around.resolveTarget arguments.path = .ok target := by decide +kernel
  have configured : around.configurationFor arguments = .ok configuration := by decide +kernel
  have counted : (around.census [Grammar.bundled] none (options arguments configuration) target).follow.1 =
      .ok census := by decide +kernel
  have silent : shownWarnings around [Grammar.bundled] none arguments = [] :=
    (shownWarnings_of_counted resolves configured counted).trans rfl
  obtain ⟨_, _, _, resolved, found, taken, lines, _⟩ :=
    run_lines brokenRowSample [Grammar.bundled] none "" _ arguments reads succeeded
  obtain rfl := Except.ok.inj (resolves.symm.trans resolved)
  obtain rfl := Except.ok.inj (configured.symm.trans found)
  obtain rfl := Except.ok.inj (counted.symm.trans taken)
  refine ⟨arguments, reads, succeeded, silent, census.rows, rfl, lines.trans ?_⟩
  rw [if_pos silent]
  rfl

end Session
end UsingCensus
