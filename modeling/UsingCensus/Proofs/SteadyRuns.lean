import UsingCensus.Proofs.Switches
import UsingCensus.Proofs.TourCancellation
import UsingCensus.Proofs.Verdicts

/-!
Switches in front of the words of a run. Main statement: being verbose and any number of workers that can be read
change neither how a run without a log file ends nor its results, and being quiet hides the warnings and nothing else.
-/
namespace UsingCensus

/-- Outcomes that differ in nothing but what was written for errors. -/
def Outcome.AgreesWith (outcome other : Outcome) : Prop :=
  outcome.ending = other.ending ∧ outcome.out = other.out

/-- An outcome that shows warnings besides. -/
def Outcome.showing (outcome : Outcome) (shown : List String) : Outcome :=
  ⟨outcome.ending, (if shown = [] then "" else "\n") ++ outcome.out, outcome.err ++ Report.lines shown⟩

theorem Outcome.showing_nil (outcome : Outcome) : outcome.showing [] = outcome := by
  simp [showing, Report.lines]

namespace Session

variable {around : Surroundings} {modules : List GrammarModule} {disturbance : Option Disturbance}
  {arguments first second : CommandLine.Arguments}

theorem staffed_options (arguments : CommandLine.Arguments) (configuration : Configuration) :
    (options arguments configuration).workers.any (· < 0) = false := by
  unfold options
  cases arguments.maxWorkers <|> configuration.maxWorkers with
  | none => rfl
  | some workers => simp

/-- How a run ends depends on its path, its configuration file, its limit and whether it is quiet. -/
theorem perform_congr (path : second.path = first.path) (config : second.config = first.config)
    (count : second.count = first.count) (noWarn : second.noWarn = first.noWarn) :
    (perform around modules disturbance second).2 = (perform around modules disturbance first).2 := by
  have same : around.configurationFor second = around.configurationFor first := by
    unfold Surroundings.configurationFor
    rw [path, config]
  cases resolves : around.resolveTarget first.path with
  | error fault => rw [perform_of_unresolved resolves, perform_of_unresolved (path ▸ resolves)]
  | ok target =>
    cases configured : around.configurationFor first with
    | error fault =>
      rw [perform_of_unconfigured resolves configured,
        perform_of_unconfigured (path ▸ resolves) (same.trans configured)]
    | ok configuration =>
      rw [perform_of_configured resolves configured,
        perform_of_configured (path ▸ resolves) (same.trans configured), noWarn]
      have other : options second configuration =
          { options first configuration with workers := (options second configuration).workers } := by
        unfold options
        rw [count]
      rw [other, around.follow_census_workers modules disturbance _ target (staffed_options first configuration)
        (staffed_options second configuration)]

/-- The warnings that a run shows: those of its census unless they are hidden. -/
def shownWarnings (around : Surroundings) (modules : List GrammarModule) (disturbance : Option Disturbance)
    (arguments : CommandLine.Arguments) : List String :=
  match around.resolveTarget arguments.path, around.configurationFor arguments with
  | .ok target, .ok configuration =>
    match (around.census modules disturbance (options arguments configuration) target).follow.1 with
    | .ok census => if arguments.noWarn || configuration.noWarn then [] else census.warnings
    | .error _ => []
  | _, _ => []

theorem shownWarnings_of_counted {target : Target} {configuration : Configuration} {census : Census}
    (resolves : around.resolveTarget arguments.path = .ok target)
    (configured : around.configurationFor arguments = .ok configuration)
    (counted : (around.census modules disturbance (options arguments configuration) target).follow.1 =
      .ok census) :
    shownWarnings around modules disturbance arguments =
      if arguments.noWarn || configuration.noWarn then [] else census.warnings := by
  unfold shownWarnings
  rw [resolves, configured]
  dsimp only
  rw [counted]

/-- A quiet run ends as the run that shows its warnings does, but for the warnings and the blank line that
they bring. -/
theorem perform_quiet (around : Surroundings) (modules : List GrammarModule)
    (disturbance : Option Disturbance) (arguments : CommandLine.Arguments) :
    (perform around modules disturbance arguments).2 =
      (perform around modules disturbance { arguments with noWarn := true }).2.showing
        (shownWarnings around modules disturbance arguments) := by
  let quiet : CommandLine.Arguments := { arguments with noWarn := true }
  unfold shownWarnings
  cases resolves : around.resolveTarget arguments.path with
  | error fault =>
    have also : around.resolveTarget quiet.path = .error fault := resolves
    rw [perform_of_unresolved resolves, perform_of_unresolved also]
    exact (Outcome.showing_nil _).symm
  | ok target =>
    have also : around.resolveTarget quiet.path = .ok target := resolves
    cases configured : around.configurationFor arguments with
    | error fault =>
      have alike : around.configurationFor quiet = .error fault := configured
      rw [perform_of_unconfigured resolves configured, perform_of_unconfigured also alike]
      exact (Outcome.showing_nil _).symm
    | ok configuration =>
      have alike : around.configurationFor quiet = .ok configuration := configured
      rw [perform_of_configured resolves configured, perform_of_configured also alike]
      have same : options quiet configuration = options arguments configuration := rfl
      rw [same]
      dsimp only
      cases counted : (around.census modules disturbance (options arguments configuration) target).follow.1 with
      | error fault => exact (Outcome.showing_nil _).symm
      | ok census =>
        have hidden : conclude (!(quiet.noWarn || configuration.noWarn)) (.ok census) =
            ⟨.exit .success, Report.table census.rows, ""⟩ := by
          simp [quiet, conclude, Report.make, Report.lines]
        rw [hidden]
        cases arguments.noWarn || configuration.noWarn with
        | true => simp [conclude, Report.make, Outcome.showing, Report.lines]
        | false => simp [conclude, Report.make, Outcome.showing]

/-! ### Schedules -/

/-- What a run with these arguments can come to when a pool reads its documents, on any schedule that nothing
disturbs. -/
inductive Pooled (around : Surroundings) (modules : List GrammarModule) (fitting : Nat)
    (arguments : CommandLine.Arguments) : Outcome → Prop
  | unresolved {fault : TargetFault} (resolves : around.resolveTarget arguments.path = .error fault) :
      Pooled around modules fitting arguments
        (.failed fault.status? (.target fault) (fault.message ++ "\n"))
  | unconfigured {target : Target} {fault : ConfigurationFault}
      (resolves : around.resolveTarget arguments.path = .ok target)
      (configured : around.configurationFor arguments = .error fault) :
      Pooled around modules fitting arguments
        (.failed fault.status? (.configuration fault) (fault.message ++ ". Cannot continue.\n"))
  | toured {target : Target} {configuration : Configuration} {trace : List TourEvent} {tour : Tour}
      {result : Except CensusFault Census}
      (resolves : around.resolveTarget arguments.path = .ok target)
      (configured : around.configurationFor arguments = .ok configuration)
      (quiet : ∀ event ∈ trace, event.isDisturbance = false)
      (ran : Tour.run around modules (options arguments configuration) fitting (.target target) trace = some tour)
      (ended : tour.stage = .ended result) :
      Pooled around modules fitting arguments
        (conclude (!(arguments.noWarn || configuration.noWarn)) result)

/-- Every schedule comes to what reading the documents one by one comes to. -/
theorem Pooled.eq_perform {fitting : Nat} {outcome : Outcome}
    (pooled : Pooled around modules fitting arguments outcome) :
    outcome = (perform around modules none arguments).2 := by
  cases pooled with
  | unresolved resolves => rw [perform_of_unresolved resolves]
  | unconfigured resolves configured => rw [perform_of_unconfigured resolves configured]
  | toured resolves configured quiet ran ended =>
    have agrees := (Tour.untroubled_run quiet ran).agrees ended
    rw [perform_of_configured resolves configured, agrees]
    rfl

/-- Some schedule comes to an end. -/
theorem exists_pooled (around : Surroundings) (modules : List GrammarModule) {fitting : Nat}
    (positive : 0 < fitting) (arguments : CommandLine.Arguments) :
    ∃ outcome, Pooled around modules fitting arguments outcome := by
  cases resolves : around.resolveTarget arguments.path with
  | error fault => exact ⟨_, .unresolved resolves⟩
  | ok target =>
    cases configured : around.configurationFor arguments with
    | error fault => exact ⟨_, .unconfigured resolves configured⟩
    | ok configuration =>
      have sound := Tour.sound_start around modules (options arguments configuration) fitting (.target target)
      obtain ⟨trace, tour, result, ran, ended, quiet⟩ := sound.concludes positive
      exact ⟨_, .toured resolves configured quiet ran ended⟩

/-! ### Switches -/

theorem run_of_read (session : Session) (modules : List GrammarModule) (disturbance : Option Disturbance)
    (stamp : String) {words : List String} (reads : CommandLine.read words = .ok (.run arguments))
    (unlogged : arguments.logFile = none) :
    ∃ told, (session.run modules disturbance stamp words).2 =
      (perform session.around modules disturbance arguments).2.afterErrors told := by
  unfold run
  rw [reads]
  dsimp only
  unfold runArguments
  rw [Log.configure_of_no_file unlogged]
  exact ⟨_, rfl⟩

/-- A lead that does not silence a run shows neither in how it ends nor in its results. -/
theorem run_lead (session : Session) (modules : List GrammarModule) (disturbance : Option Disturbance)
    (stamp : String) {words led : List String} {lead : CommandLine.Lead} (loud : lead.noWarn = false)
    (leads : CommandLine.read led = (CommandLine.read words).map lead.request)
    (reads : CommandLine.read words = .ok (.run arguments)) (unlogged : arguments.logFile = none) :
    (session.run modules disturbance stamp led).2.AgreesWith
      (session.run modules disturbance stamp words).2 := by
  have also : CommandLine.read led = .ok (.run (lead.apply arguments)) := by
    rw [leads, reads]
    rfl
  have still : (lead.apply arguments).noWarn = arguments.noWarn := by
    simp [CommandLine.Lead.apply, loud]
  have same : (perform session.around modules disturbance (lead.apply arguments)).2 =
      (perform session.around modules disturbance arguments).2 := perform_congr rfl rfl rfl still
  obtain ⟨_, one⟩ := session.run_of_read modules disturbance stamp reads unlogged
  obtain ⟨_, other⟩ := session.run_of_read modules disturbance stamp also unlogged
  rw [one, other, same]
  exact ⟨rfl, rfl⟩

theorem run_workers_refused (session : Session) (modules : List GrammarModule)
    (disturbance : Option Disturbance) (stamp : String) {words : List String} {request : CommandLine.Request}
    (n : Nat) (above : 0 < n) (beyond : Text.digitLimit < (toString n).toList.length)
    (reads : CommandLine.read words = .ok request) :
    (session.run modules disturbance stamp ("-j" :: toString n :: words)).2.ending = .exit .usage := by
  unfold run
  rw [CommandLine.Lead.read_workers_refused n above beyond reads]

/-- How a run without a log file takes a switch in front of its words. -/
structure Steady (session : Session) (modules : List GrammarModule) (disturbance : Option Disturbance)
    (stamp : String) (words : List String) (arguments : CommandLine.Arguments) : Prop where
  verbose : (session.run modules disturbance stamp ("-v" :: words)).2.AgreesWith
    (session.run modules disturbance stamp words).2
  workers : ∀ n : Nat, 0 < n → (toString n).toList.length ≤ Text.digitLimit →
    (session.run modules disturbance stamp ("-j" :: toString n :: words)).2.AgreesWith
      (session.run modules disturbance stamp words).2
  /-- What a quiet run lacks is the warnings that are shown otherwise, and the blank line if there are any. -/
  quiet : ∃ shown, shown = shownWarnings session.around modules disturbance arguments ∧
    (session.run modules disturbance stamp words).2.ending =
      (session.run modules disturbance stamp ("-q" :: words)).2.ending ∧
    (session.run modules disturbance stamp words).2.out =
      (if shown = [] then "" else "\n") ++ (session.run modules disturbance stamp ("-q" :: words)).2.out ∧
    ∃ told, (session.run modules disturbance stamp words).2.err = told ++ Report.lines shown
  /-- However many workers read the documents, some schedule comes to an end, and all come to the same. -/
  pooled : ∀ (workers : Option Nat) (fitting : Nat), 0 < fitting →
    (∃ outcome, Pooled session.around modules fitting { arguments with maxWorkers := workers } outcome) ∧
    ∀ outcome, Pooled session.around modules fitting { arguments with maxWorkers := workers } outcome →
      outcome.AgreesWith (session.run modules none stamp words).2

/-- Neither how much a run tells nor how many workers it has shows in how it ends and in its results. -/
theorem run_steady (session : Session) (modules : List GrammarModule) (disturbance : Option Disturbance)
    (stamp : String) (words : List String) (arguments : CommandLine.Arguments)
    (reads : CommandLine.read words = .ok (.run arguments)) (unlogged : arguments.logFile = none) :
    Steady session modules disturbance stamp words arguments where
  verbose := by
    have leads : CommandLine.read ("-v" :: words) =
        (CommandLine.read words).map (CommandLine.Lead.request ⟨true, false, none⟩) :=
      CommandLine.Lead.read_flag (by decide) rfl rfl rfl words
    exact session.run_lead modules disturbance stamp rfl leads reads unlogged
  workers := by
    intro n above within
    have leads := CommandLine.Lead.read_workers n above within words
    exact session.run_lead modules disturbance stamp rfl leads reads unlogged
  quiet := by
    have leads : CommandLine.read ("-q" :: words) =
        (CommandLine.read words).map (CommandLine.Lead.request ⟨false, true, none⟩) :=
      CommandLine.Lead.read_flag (by decide) rfl rfl rfl words
    rw [reads] at leads
    have silenced : (perform session.around modules disturbance
        (CommandLine.Lead.apply ⟨false, true, none⟩ arguments)).2 =
          (perform session.around modules disturbance { arguments with noWarn := true }).2 :=
      perform_congr rfl rfl rfl rfl
    obtain ⟨told, plain⟩ := session.run_of_read modules disturbance stamp reads unlogged
    obtain ⟨_, quiet⟩ := session.run_of_read modules disturbance stamp leads unlogged
    rw [plain, quiet, silenced, perform_quiet]
    exact ⟨_, rfl, rfl, rfl, _, (String.append_assoc ..).symm⟩
  pooled := by
    intro workers fitting positive
    refine ⟨exists_pooled session.around modules positive _, fun outcome pooled => ?_⟩
    obtain ⟨_, plain⟩ := session.run_of_read modules none stamp reads unlogged
    have same : (perform session.around modules none { arguments with maxWorkers := workers }).2 =
        (perform session.around modules none arguments).2 := perform_congr rfl rfl rfl rfl
    rw [pooled.eq_perform, plain, same]
    exact ⟨rfl, rfl⟩

def steadySample : Session := start {
  tree := [
    (["r", "a.csproj"], "<Project><Compile Include='x.cs'/><ProjectReference Include='m.csproj'/></Project>"),
    (["r", "x.cs"], "using A;")].foldl
      (fun tree (location, text) => tree.plant location (.file (Text.Utf8.ofString text))) FileTree.empty
  directory := ["r"]
  home := "/r" }

def steadyArguments : CommandLine.Arguments := { CommandLine.Arguments.standard with path := "a.csproj" }

/-- The blank line goes with the warning. -/
theorem run_steady_sample :
    CommandLine.read ["a.csproj"] = .ok (.run steadyArguments) ∧ steadyArguments.logFile = none ∧
      Steady steadySample [Grammar.bundled] none "" ["a.csproj"] steadyArguments ∧
      (steadySample.run [Grammar.bundled] none "" ["-q", "a.csproj"]).2.out = "1      A\n" := by
  have reads : CommandLine.read ["a.csproj"] = .ok (.run steadyArguments) := by decide +kernel
  have steady := run_steady steadySample [Grammar.bundled] none "" _ _ reads rfl
  exact ⟨reads, rfl, steady, by decide +kernel⟩

/-- The least number of workers that is refused. -/
theorem workers_refused_at_limit :
    CommandLine.read ["a.csproj"] = .ok (.run steadyArguments) ∧ steadyArguments.logFile = none ∧
      (steadySample.run [Grammar.bundled] none "" ["a.csproj"]).2.ending = .exit .success ∧
      0 < Nat.pow 10 Text.digitLimit ∧
      (steadySample.run [Grammar.bundled] none ""
        ["-j", toString (Nat.pow 10 Text.digitLimit), "a.csproj"]).2.ending = .exit .usage := by
  have reads : CommandLine.read ["a.csproj"] = .ok (.run steadyArguments) := by decide +kernel
  obtain ⟨above, beyond⟩ := Text.lt_length_toString_pow Text.digitLimit (by decide)
  exact ⟨reads, rfl, by decide +kernel, above,
    steadySample.run_workers_refused _ _ _ _ above beyond reads⟩

end Session
end UsingCensus
