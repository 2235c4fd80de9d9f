import UsingCensus.Proofs.Disturbances
import UsingCensus.Host

/-!
Verdicts on runs. Main statement: a run that does not crash ends with the status of the first stage that has a
complaint, and then has written no results but what its imports wrote, and that complaint last of all; if no stage has
one it ends well and has written its report.
-/
namespace UsingCensus

/-- The stages at which a run can fail, in their order. -/
inductive RunStage where
  | usage
  | path
  | kind
  | descriptor
  | configuration
  | grammar
  | cancellation
  deriving DecidableEq, Repr

namespace RunStage

def all : List RunStage := [usage, path, kind, descriptor, configuration, grammar, cancellation]

def status : RunStage → ExitStatus
  | usage => .usage
  | path => .pathNotFound
  | kind => .pathInvalid
  | descriptor => .workItemNotFound
  | configuration => .configurationInvalid
  | grammar => .grammarNotFound
  | cancellation => .cancelled

example : all.map (fun stage => stage.status.code) = [2, 1, 3, 4, 6, 5, 130] := rfl

theorem code_status_ne_zero (stage : RunStage) : stage.status.code ≠ 0 := by
  cases stage <;> decide

end RunStage

namespace Surroundings

/-- The configuration that the arguments of a run stand for, whatever stands at their path. -/
def configurationFor (around : Surroundings) (arguments : CommandLine.Arguments) :
    Except ConfigurationFault Configuration :=
  match arguments.config.filter (· ≠ "") with
  | some file => around.configuration (Path.ofString file) true
  | none =>
    let raw := Path.ofString arguments.path
    around.configuration (if around.isDirectory arguments.path then raw else raw.parent) false

/-- What a stage has to say against a run with these arguments, each stage for itself. A search for the
grammar that is interrupted finds nothing missing. -/
def complaint? (around : Surroundings) (modules : List GrammarModule) (disturbance : Option Disturbance)
    (arguments : CommandLine.Arguments) : RunStage → Option String
  | .usage => none
  | .path =>
    if around.pathExists arguments.path then none else some (TargetFault.pathNotFound.message ++ "\n")
  | .kind =>
    if around.isValidPath arguments.path then none else some (TargetFault.invalidPath.message ++ "\n")
  | .descriptor =>
    match around.locateDescriptor arguments.path with
    | .ok none => some (TargetFault.workItemNotFound.message ++ "\n")
    | _ => none
  | .configuration =>
    match around.configurationFor arguments with
    | .error fault => if fault.isReported then some (fault.message ++ ". Cannot continue.\n") else none
    | .ok _ => none
  | .grammar =>
    match around.configurationFor arguments with
    | .error _ => none
    | .ok configuration =>
      match Grammar.locate modules configuration.grammar with
      | .error fault =>
        if fault.isReported && disturbance ≠ some .interruption then some (fault.message ++ "\n") else none
      | .ok _ => none
  | .cancellation =>
    match around.resolveTarget arguments.path, around.configurationFor arguments with
    | .ok target, .ok configuration =>
      let documents := around.documentsOf (Session.options arguments configuration).selection target.resolved
      if disturbance.any (Disturbance.comes around documents) then
        some (CensusFault.cancelled.message ++ "\n")
      else none
    | _, _ => none

/-! ### Targets -/

variable {around : Surroundings} {text : String}

/-- A path that exists, can be valid and stands for a file has a target, unless the path to it cannot be
followed to its end. -/
theorem resolveTarget_cases (around : Surroundings) (text : String) :
    (around.pathExists text = false ∧ around.resolveTarget text = .error .pathNotFound) ∨
    (around.pathExists text = true ∧ around.isValidPath text = false ∧
      around.resolveTarget text = .error .invalidPath) ∨
    (around.pathExists text = true ∧ around.isValidPath text = true ∧
      around.locateDescriptor text = .ok none ∧ around.resolveTarget text = .error .workItemNotFound) ∨
    (∃ fault, around.resolveTarget text = .error (.unresolved fault)) ∨
    (around.pathExists text = true ∧ around.isValidPath text = true ∧
      ∃ located resolved, around.locateDescriptor text = .ok (some located) ∧
        around.resolveTarget text =
          .ok ⟨text, resolved, if around.isDirectory text then .directory else .file⟩) := by
  unfold resolveTarget
  cases present : around.pathExists text with
  | false => exact .inl ⟨rfl, rfl⟩
  | true =>
    right
    cases valid : around.isValidPath text with
    | false => exact .inl ⟨rfl, rfl, rfl⟩
    | true =>
      right
      cases found : around.locateDescriptor text with
      | error fault => exact .inr (.inl ⟨fault, rfl⟩)
      | ok located =>
        cases located with
        | none => exact .inl ⟨rfl, rfl, rfl, rfl⟩
        | some located =>
          right
          dsimp only
          cases around.expandHome located >>= around.canonical with
          | error fault => exact .inl ⟨fault, rfl⟩
          | ok resolved => exact .inr ⟨rfl, rfl, located, resolved, rfl, rfl⟩

/-! ### Censuses -/

/-- A census fails with a crash, with a grammar that cannot be had or with a disturbance, or it ends well. -/
theorem census_cases (around : Surroundings) (modules : List GrammarModule)
    (disturbance : Option Disturbance) (options : CensusOptions) (target : Target) :
    let located := Grammar.locate modules options.grammar
    let result := (around.census modules disturbance options target).follow.1
    let disturbed :=
      disturbance.any (Disturbance.comes around (around.documentsOf options.selection target.resolved))
    (∃ fault, result = .error fault ∧ fault.status? = none) ∨
    (∃ fault, disturbance ≠ some .interruption ∧ located = .error fault ∧
      result = .error (.grammar fault)) ∨
    (disturbed = true ∧ (disturbance = some .interruption ∨ ∃ found, located = .ok found) ∧
      ∃ fault, result = .error fault ∧ fault.status? = some .cancelled ∧
        fault.message = CensusFault.cancelled.message) ∨
    (disturbed = false ∧ (∃ found, located = .ok found) ∧ ∃ census, result = .ok census) := by
  intro located result disturbed
  have came : result = _ :=
    around.outcome_census modules disturbance options target (show Progress.start.cancelled = false from rfl)
  by_cases interrupted : disturbance = some .interruption
  · rw [if_pos interrupted] at came
    have struck : disturbed = true := Disturbance.any_comes_iff.mpr (.inl interrupted)
    exact .inr (.inr (.inl ⟨struck, .inl interrupted, .interrupted, came, rfl, rfl⟩))
  rw [if_neg interrupted] at came
  cases found : Grammar.locate modules options.grammar with
  | error fault =>
    rw [found] at came
    exact .inr (.inl ⟨fault, interrupted, found, came⟩)
  | ok grammar =>
    -- What is left comes to a cancellation, to a crash or to a census.
    have cancelled (struck : disturbed = true) (stopped : result = .error .cancelled) :
        disturbed = true ∧ (disturbance = some .interruption ∨ ∃ found, located = .ok found) ∧
          ∃ fault, result = .error fault ∧ fault.status? = some .cancelled ∧
            fault.message = CensusFault.cancelled.message :=
      ⟨struck, .inr ⟨grammar, found⟩, .cancelled, stopped, rfl, rfl⟩
    rw [found] at came
    dsimp only at came
    by_cases early : disturbance = some (.cancellation .grammar)
    · rw [if_pos early] at came
      exact .inr (.inr (.inl (cancelled (Disturbance.any_comes_iff.mpr (.inr (.inl early))) came)))
    rw [if_neg early] at came
    cases failed : (around.openWorkspace target.resolved).fault with
    | some fault =>
      rw [failed] at came
      exact .inl ⟨.load fault, came, rfl⟩
    | none =>
      rw [failed] at came
      dsimp only at came
      by_cases loaded : disturbance = some (.cancellation .workspace)
      · rw [if_pos loaded] at came
        exact .inr (.inr (.inl (cancelled (Disturbance.any_comes_iff.mpr (.inr (.inr (.inl loaded)))) came)))
      rw [if_neg loaded] at came
      split at came
      · exact .inl ⟨.noWorkers, came, rfl⟩
      · split at came
        · rename_i read
          exact .inr (.inr (.inl (cancelled (Disturbance.any_comes_iff.mpr (.inr (.inr (.inr read)))) came)))
        · rename_i unread
          have quiet : disturbed = false := by
            refine Bool.eq_false_iff.mpr fun struck => ?_
            rcases Disturbance.any_comes_iff.mp struck with there | there | there | there
            · exact interrupted there
            · exact early there
            · exact loaded there
            · exact unread there
          unfold Milestone.conclude at came
          split at came
          · exact .inr (.inr (.inr ⟨quiet, ⟨grammar, found⟩, _, came⟩))
          · exact .inl ⟨.ranking _, came, rfl⟩

/-! ### The first complaint -/

/-- The first stage that has a complaint, and what it says. -/
def firstComplaint? (around : Surroundings) (modules : List GrammarModule)
    (disturbance : Option Disturbance) (arguments : CommandLine.Arguments) : Option (RunStage × String) :=
  RunStage.all.findSome? fun stage => (around.complaint? modules disturbance arguments stage).map (stage, ·)

variable {modules : List GrammarModule} {disturbance : Option Disturbance} {arguments : CommandLine.Arguments}

theorem firstComplaint?_of_resolved {target : Target}
    (resolves : around.resolveTarget arguments.path = .ok target) :
    around.firstComplaint? modules disturbance arguments =
      [RunStage.configuration, .grammar, .cancellation].findSome? fun stage =>
        (around.complaint? modules disturbance arguments stage).map (stage, ·) := by
  rcases around.resolveTarget_cases arguments.path with
    ⟨_, other⟩ | ⟨_, _, other⟩ | ⟨_, _, _, other⟩ | ⟨_, other⟩ | ⟨present, valid, _, _, found, other⟩
  all_goals
    rw [resolves] at other
    cases other
  simp [firstComplaint?, RunStage.all, complaint?, present, valid, found]

end Surroundings

namespace Log

variable {options : LogOptions} {around opened : Surroundings} {log : Log}

theorem configure_of_no_file (unwritten : options.file = none) :
    configure options around = (streaming options, around, none) := by
  unfold configure
  rw [unwritten]

theorem streamText_of_configure (set : configure options around = (log, opened, none)) (record : LogRecord) :
    log.streamText record =
      if record.level.reaches log.level && record.level.reaches options.streamLevel then record.streamLine
      else "" := by
  have handled : log.handlers = [.stream options.streamLevel] ∨
      ∃ level location, log.handlers = [.stream options.streamLevel, .file level location] := by
    unfold configure at set
    split at set
    · cases set
      exact .inl rfl
    · split at set
      · cases set
      · cases set
        exact .inr ⟨_, _, rfl⟩
  unfold streamText
  rcases handled with handlers | ⟨level, location, handlers⟩ <;>
    cases record.level.reaches log.level <;> simp [handlers, LogHandler.streamText, String.join_cons]

/-- A log that was set up tells records in order, and each in one line or not at all. -/
theorem exists_streamTexts (set : configure options around = (log, opened, none)) (records : List LogRecord) :
    ∃ told : List LogRecord, told.Sublist records ∧
      log.streamTexts records = String.join (told.map LogRecord.streamLine) := by
  refine ⟨records.filter fun record =>
    record.level.reaches log.level && record.level.reaches options.streamLevel, List.filter_sublist, ?_⟩
  unfold streamTexts
  induction records with
  | nil => rfl
  | cons record rest ih =>
    rw [List.map_cons, String.join_cons, ih, streamText_of_configure set, List.filter_cons]
    split
    · rw [List.map_cons, String.join_cons]
    · exact String.empty_append

end Log

namespace Session

variable {around : Surroundings} {modules : List GrammarModule} {disturbance : Option Disturbance}
  {arguments : CommandLine.Arguments} {status : ExitStatus}

theorem configuration_eq {target : Target} (resolves : around.resolveTarget arguments.path = .ok target) :
    configuration around arguments target = around.configurationFor arguments := by
  have kept : target.raw = arguments.path ∧
      target.kind = if around.isDirectory arguments.path then .directory else .file := by
    rcases around.resolveTarget_cases arguments.path with
      ⟨_, other⟩ | ⟨_, _, other⟩ | ⟨_, _, _, other⟩ | ⟨_, other⟩ | ⟨_, _, _, _, _, other⟩
    all_goals
      rw [resolves] at other
      cases other
    exact ⟨rfl, rfl⟩
  unfold configuration Surroundings.configurationFor
  rw [kept.1, kept.2]
  cases around.isDirectory arguments.path <;> rfl

/-! ### Performing -/

theorem perform_of_unresolved {fault : TargetFault}
    (resolves : around.resolveTarget arguments.path = .error fault) :
    perform around modules disturbance arguments =
      ([], .failed fault.status? (.target fault) (fault.message ++ "\n")) := by
  unfold perform
  rw [resolves]

theorem perform_of_unconfigured {target : Target} {fault : ConfigurationFault}
    (resolves : around.resolveTarget arguments.path = .ok target)
    (configured : around.configurationFor arguments = .error fault) :
    perform around modules disturbance arguments =
      ([], .failed fault.status? (.configuration fault) (fault.message ++ ". Cannot continue.\n")) := by
  unfold perform
  rw [resolves]
  dsimp only
  rw [configuration_eq resolves, configured]

theorem perform_of_configured {target : Target} {configuration : Configuration}
    (resolves : around.resolveTarget arguments.path = .ok target)
    (configured : around.configurationFor arguments = .ok configuration) :
    (perform around modules disturbance arguments).2 =
      conclude (!(arguments.noWarn || configuration.noWarn))
        (around.census modules disturbance (options arguments configuration) target).follow.1 := by
  unfold perform
  rw [resolves]
  dsimp only
  rw [configuration_eq resolves, configured]

/-- A run with these arguments ends with the first complaint, or with a report. -/
def Verdict (around : Surroundings) (modules : List GrammarModule) (disturbance : Option Disturbance)
    (arguments : CommandLine.Arguments) (outcome : Outcome) : Prop :=
  match around.firstComplaint? modules disturbance arguments with
  | some (stage, message) => outcome = ⟨.exit stage.status, "", message⟩
  | none => ∃ target configuration census,
      around.resolveTarget arguments.path = .ok target ∧
      around.configurationFor arguments = .ok configuration ∧
      (around.census modules disturbance (options arguments configuration) target).follow.1 = .ok census ∧
      outcome = conclude (!(arguments.noWarn || configuration.noWarn)) (.ok census)

theorem verdict_of_first (stage : RunStage) (message : String) {outcome : Outcome}
    (first : around.firstComplaint? modules disturbance arguments = some (stage, message))
    (came : outcome = ⟨.exit stage.status, "", message⟩) :
    Verdict around modules disturbance arguments outcome := by
  unfold Verdict
  rw [first]
  exact came

theorem verdict_of_configured {target : Target} {configuration : Configuration}
    (resolves : around.resolveTarget arguments.path = .ok target)
    (configured : around.configurationFor arguments = .ok configuration)
    (ended : (perform around modules disturbance arguments).2.ending = .exit status) :
    Verdict around modules disturbance arguments (perform around modules disturbance arguments).2 := by
  have first : around.firstComplaint? modules disturbance arguments = _ :=
    Surroundings.firstComplaint?_of_resolved resolves
  rw [perform_of_configured resolves configured] at ended ⊢
  rcases around.census_cases modules disturbance (options arguments configuration) target with
    ⟨fault, counted, crashes⟩ | ⟨fault, searched, missing, counted⟩ |
      ⟨struck, searched, fault, counted, told, worded⟩ | ⟨quiet, ⟨grammar, searched⟩, census, counted⟩
  · rw [counted, conclude, crashes] at ended
    cases ended
  · have located : Grammar.locate modules configuration.grammar = .error fault := missing
    rw [counted, conclude, CensusFault.status?] at ended ⊢
    cases reported : fault.isReported with
    | false =>
      rw [reported] at ended
      cases ended
    | true =>
      refine verdict_of_first .grammar (fault.message ++ "\n") ?_ rfl
      rw [first]
      simp [Surroundings.complaint?, configured, located, reported, searched]
  · rw [counted, conclude, told, worded]
    refine verdict_of_first .cancellation (CensusFault.cancelled.message ++ "\n") ?_ rfl
    have passed : around.complaint? modules disturbance arguments .grammar = none := by
      simp only [Surroundings.complaint?, configured]
      cases located : Grammar.locate modules configuration.grammar with
      | ok grammar => rfl
      | error fault =>
        rcases searched with interrupted | ⟨grammar, other⟩
        · simp [interrupted]
        · cases located.symm.trans other
    simp only [first, List.findSome?_cons, passed]
    simp [Surroundings.complaint?, resolves, configured, struck]
  · have nothing : around.firstComplaint? modules disturbance arguments = none := by
      have located : Grammar.locate modules configuration.grammar = .ok grammar := searched
      rw [first]
      simp [Surroundings.complaint?, resolves, configured, located, quiet]
    unfold Verdict
    rw [nothing]
    exact ⟨target, configuration, census, resolves, configured, counted, by rw [counted]⟩

theorem perform_verdict (ended : (perform around modules disturbance arguments).2.ending = .exit status) :
    Verdict around modules disturbance arguments (perform around modules disturbance arguments).2 := by
  rcases around.resolveTarget_cases arguments.path with
    ⟨absent, resolves⟩ | ⟨present, refused, resolves⟩ | ⟨present, valid, nothing, resolves⟩ |
      ⟨fault, resolves⟩ | ⟨_, _, _, _, _, resolves⟩
  · rw [perform_of_unresolved resolves]
    refine verdict_of_first .path (TargetFault.pathNotFound.message ++ "\n") ?_ rfl
    simp [Surroundings.firstComplaint?, RunStage.all, Surroundings.complaint?, absent]
  · rw [perform_of_unresolved resolves]
    refine verdict_of_first .kind (TargetFault.invalidPath.message ++ "\n") ?_ rfl
    simp [Surroundings.firstComplaint?, RunStage.all, Surroundings.complaint?, present, refused]
  · rw [perform_of_unresolved resolves]
    refine verdict_of_first .descriptor (TargetFault.workItemNotFound.message ++ "\n") ?_ rfl
    simp [Surroundings.firstComplaint?, RunStage.all, Surroundings.complaint?, present, valid, nothing]
  · rw [perform_of_unresolved resolves] at ended
    cases ended
  · cases configured : around.configurationFor arguments with
    | error fault =>
      rw [perform_of_unconfigured resolves configured, ConfigurationFault.status?] at ended ⊢
      cases reported : fault.isReported with
      | false =>
        rw [reported] at ended
        cases ended
      | true =>
        refine verdict_of_first .configuration (fault.message ++ ". Cannot continue.\n") ?_ rfl
        rw [Surroundings.firstComplaint?_of_resolved resolves]
        simp [Surroundings.complaint?, configured, reported]
    | ok configuration => exact verdict_of_configured resolves configured ended

/-! ### Running -/

/-- What a run finds around it once its log is set up. -/
def prepared (session : Session) (arguments : CommandLine.Arguments) : Surroundings :=
  (Log.configure ⟨arguments.verbose, arguments.noWarn, arguments.logFile⟩ session.around).2.1

/-- What a stage has to say against a command line, each stage for itself. -/
def complaint? (session : Session) (modules : List GrammarModule) (disturbance : Option Disturbance)
    (words : List String) (stage : RunStage) : Option String :=
  match CommandLine.read words with
  | .error fault => if stage = .usage then some (CommandLine.complaint fault) else none
  | .ok .help => none
  | .ok (.run arguments) => (session.prepared arguments).complaint? modules disturbance arguments stage

/-- The first stage that has a complaint against a command line, and what it says. -/
def firstComplaint? (session : Session) (modules : List GrammarModule) (disturbance : Option Disturbance)
    (words : List String) : Option (RunStage × String) :=
  RunStage.all.findSome? fun stage => (session.complaint? modules disturbance words stage).map (stage, ·)

theorem firstComplaint?_of_unread {session : Session} {words : List String} {fault : CommandLine.UsageFault}
    (unread : CommandLine.read words = .error fault) :
    session.firstComplaint? modules disturbance words = some (.usage, CommandLine.complaint fault) := by
  simp [firstComplaint?, RunStage.all, complaint?, unread]

theorem firstComplaint?_of_help {session : Session} {words : List String}
    (asked : CommandLine.read words = .ok .help) : session.firstComplaint? modules disturbance words = none := by
  simp [firstComplaint?, complaint?, asked]

theorem firstComplaint?_of_read {session : Session} {words : List String}
    (reading : CommandLine.read words = .ok (.run arguments)) :
    session.firstComplaint? modules disturbance words =
      (session.prepared arguments).firstComplaint? modules disturbance arguments := by
  simp [firstComplaint?, Surroundings.firstComplaint?, complaint?, reading]

theorem runArguments_verdict (session : Session) (stamp : String)
    (ended : (session.runArguments modules disturbance stamp arguments).2.ending = .exit status) :
    ∃ (outcome : Outcome) (told : List LogRecord),
      Verdict (session.prepared arguments) modules disturbance arguments outcome ∧
      (session.runArguments modules disturbance stamp arguments).2 =
        outcome.afterErrors (String.join (told.map LogRecord.streamLine)) := by
  unfold prepared
  unfold runArguments at ended ⊢
  cases set : Log.configure ⟨arguments.verbose, arguments.noWarn, arguments.logFile⟩ session.around with
  | mk log rest =>
    obtain ⟨around, fault⟩ := rest
    rw [set] at ended
    cases fault with
    | some fault => cases ended
    | none =>
      have performed : (perform around modules disturbance arguments).2.ending = .exit status := ended
      obtain ⟨told, _, written⟩ :=
        Log.exists_streamTexts set (perform around modules disturbance arguments).1
      exact ⟨_, told, perform_verdict performed, congrArg (Outcome.afterErrors · _) written⟩

end Session

/-! ### Hosts -/

namespace Grammar

/-- No module writes anything when it is imported. -/
def Silent (modules : List GrammarModule) : Prop := ∀ installed ∈ modules, installed.greeting = ""

theorem text_importAll_of_silent {modules : List GrammarModule} (silent : Silent modules)
    (imported names : List String) : (importAll modules imported names).text = "" := by
  induction names generalizing imported with
  | nil => rfl
  | cons name rest ih =>
    rw [importAll]
    split
    · exact ih imported
    · cases found : module? modules name with
      | none => rfl
      | some installed =>
        have quiet : installed.greeting = "" := silent installed (List.mem_of_find?_eq_some found)
        dsimp only
        split
        · exact quiet
        · dsimp only
          rw [quiet, ih, String.append_empty]

end Grammar

namespace Host

open Session

variable {modules : List GrammarModule} {disturbance : Option Disturbance} {words : List String}

theorem text_importing_of_silent (host : Host) (silent : Grammar.Silent modules) :
    (host.importing modules disturbance words).text = "" := by
  unfold importing
  split
  · rfl
  · unfold Grammar.importing
    split
    · rfl
    · exact Grammar.text_importAll_of_silent silent _ _

theorem text_importing_of_unsought (host : Host)
    (unsought : host.session.sought? disturbance words = none) :
    (host.importing modules disturbance words).text = "" := by
  unfold importing
  rw [unsought]

theorem exists_of_sought {session : Session} {name : String} (sought : session.sought? disturbance words = some name) :
    ∃ arguments target configuration, CommandLine.read words = .ok (.run arguments) ∧
      (session.prepared arguments).resolveTarget arguments.path = .ok target ∧
      (session.prepared arguments).configurationFor arguments = .ok configuration := by
  unfold sought? at sought
  split at sought
  · rename_i arguments reading
    split at sought
    · rename_i around set
      have prepared : session.prepared arguments = around := by rw [Session.prepared, set]
      unfold grammarSought? at sought
      split at sought
      · cases sought
      · rename_i target resolves
        rw [configuration_eq resolves] at sought
        split at sought
        · cases sought
        · rename_i configuration configured
          exact ⟨arguments, target, configuration, reading, prepared ▸ resolves, prepared ▸ configured⟩
    · cases sought
  · cases sought

/-- A run that looks for a grammar has passed the stages before it. -/
theorem stage_of_sought {session : Session} {name message : String} {stage : RunStage}
    (sought : session.sought? disturbance words = some name)
    (first : session.firstComplaint? modules disturbance words = some (stage, message)) :
    stage = .grammar ∨ stage = .cancellation := by
  obtain ⟨arguments, target, configuration, reading, resolves, configured⟩ := exists_of_sought sought
  rw [firstComplaint?_of_read reading, Surroundings.firstComplaint?_of_resolved resolves] at first
  obtain ⟨failed, member, complains⟩ := List.exists_of_findSome?_eq_some first
  obtain ⟨text, complaint, same⟩ := Option.map_eq_some_iff.mp complains
  cases same
  have late : stage ≠ .configuration := by
    rintro rfl
    rw [Surroundings.complaint?, configured] at complaint
    cases complaint
  simpa [late] using member

/-- Without arguments to run with, nothing is imported. -/
theorem text_importing_of_unread (host : Host)
    (unread : ∀ arguments, CommandLine.read words ≠ .ok (.run arguments)) :
    (host.importing modules disturbance words).text = "" := by
  refine host.text_importing_of_unsought (Option.eq_none_iff_forall_ne_some.mpr fun name sought => ?_)
  obtain ⟨arguments, _, _, reading, -⟩ := exists_of_sought sought
  exact unread arguments reading

theorem text_importing_of_first {host : Host} {stage : RunStage} {message : String}
    (first : host.session.firstComplaint? modules disturbance words = some (stage, message)) :
    (host.importing modules disturbance words).text = "" ∨ stage = .grammar ∨ stage = .cancellation := by
  cases sought : host.session.sought? disturbance words with
  | none => exact .inl (host.text_importing_of_unsought sought)
  | some name => exact .inr (stage_of_sought sought first)

/-- A run that does not crash ends with the status of the first stage that has a complaint, and then writes no
results, but for what its imports write, and the complaint last; without a complaint it ends well and writes its help
or its report. -/
theorem run_verdict (host : Host) (modules : List GrammarModule) (disturbance : Option Disturbance)
    (stamp : String) (words : List String) (status : ExitStatus)
    (ended : (host.run modules disturbance stamp words).2.ending = .exit status) :
    let session := host.session
    let outcome := (host.run modules disturbance stamp words).2
    let greeting := (host.importing modules disturbance words).text
    (Grammar.Silent modules → greeting = "") ∧
    match session.firstComplaint? modules disturbance words with
    | some (stage, message) =>
      status = stage.status ∧ status.code ≠ 0 ∧ outcome.out = greeting ∧
        (greeting = "" ∨ stage = .grammar ∨ stage = .cancellation) ∧
        ∃ told : List LogRecord, outcome.err = String.join (told.map LogRecord.streamLine) ++ message
    | none =>
      status = .success ∧
        (CommandLine.read words = .ok .help ∧ outcome.out = CommandLine.help ∧ outcome.err = "" ∨
        ∃ arguments target configuration census, ∃ told : List LogRecord,
          CommandLine.read words = .ok (.run arguments) ∧
          (session.prepared arguments).resolveTarget arguments.path = .ok target ∧
          (session.prepared arguments).configurationFor arguments = .ok configuration ∧
          ((session.prepared arguments).census modules disturbance (options arguments configuration)
            target).follow.1 = .ok census ∧
          let shown := if arguments.noWarn || configuration.noWarn then [] else census.warnings
          outcome.out = greeting ++
            ((if shown = [] then "" else "\n") ++ String.join (census.rows.map fun row => row.format ++ "\n")) ∧
          outcome.err =
            String.join (told.map LogRecord.streamLine) ++ String.join (shown.map fun text => text ++ "\n")) := by
  intro session outcome greeting
  refine ⟨host.text_importing_of_silent, ?_⟩
  have came : outcome = { (session.run modules disturbance stamp words).2 with
    out := greeting ++ (session.run modules disturbance stamp words).2.out } := rfl
  change outcome.ending = .exit status at ended
  unfold Session.run at came
  cases reading : CommandLine.read words with
  | error fault =>
    have first : session.firstComplaint? modules disturbance words = some (.usage, CommandLine.complaint fault) :=
      firstComplaint?_of_unread reading
    rw [reading] at came
    rw [came] at ended ⊢
    cases ended
    rw [first]
    exact ⟨rfl, by decide, String.append_empty, text_importing_of_first first, [], rfl⟩
  | ok request =>
    cases request with
    | help =>
      have none : greeting = "" := host.text_importing_of_unread (by simp [reading])
      rw [reading, none] at came
      rw [came] at ended ⊢
      cases ended
      rw [firstComplaint?_of_help reading]
      exact ⟨rfl, .inl ⟨rfl, String.empty_append, rfl⟩⟩
    | run arguments =>
      rw [reading] at came
      dsimp only at came
      have finished : (session.runArguments modules disturbance stamp arguments).2.ending = .exit status := by
        rw [came] at ended
        exact ended
      obtain ⟨performed, told, verdict, written⟩ := session.runArguments_verdict stamp finished
      rw [written] at came finished
      rw [came, firstComplaint?_of_read reading]
      unfold Verdict at verdict
      cases found : (session.prepared arguments).firstComplaint? modules disturbance arguments with
      | some complaint =>
        rw [found] at verdict
        dsimp only at verdict ⊢
        rw [verdict] at finished ⊢
        cases finished
        exact ⟨rfl, RunStage.code_status_ne_zero _, String.append_empty,
          text_importing_of_first ((firstComplaint?_of_read reading).trans found), told, rfl⟩
      | none =>
        rw [found] at verdict
        obtain ⟨target, configuration, census, resolves, configured, counted, rfl⟩ := verdict
        cases finished
        refine ⟨rfl, .inr ⟨arguments, target, configuration, census, told, rfl, resolves, configured, counted,
          ?_⟩⟩
        simp only [conclude, Report.make, Report.table, Report.lines, List.map_map, Outcome.afterErrors]
        cases arguments.noWarn || configuration.noWarn <;> exact ⟨rfl, rfl⟩

/-- A project that refers to a missing one, a configuration that asks for less than nothing and one that names a grammar
that is none. -/
def verdictSample : Host := start {
  tree := [
    (["r", "a.csproj"], "<Project><Compile Include='x.cs'/><ProjectReference Include='m.csproj'/></Project>"),
    (["r", "x.cs"], "using A;"),
    (["r", "c.yml"], "count: -1"),
    (["r", "g.yml"], "grammar: this")].foldl
      (fun tree (location, text) => tree.plant location (.file (Text.Utf8.ofString text))) FileTree.empty
  directory := ["r"]
  home := "/r" }

/-- A path that is missing goes before a configuration that is refused, and a warning before the rows; what is no
grammar can still greet. -/
theorem run_verdict_sample :
    (∃ words, (verdictSample.session.complaint? [] none words .configuration).isSome ∧
      (verdictSample.run [] none "" words).2.ending = .exit .pathNotFound ∧
      (verdictSample.run [] none "" words).2.out = "" ∧
      ∃ told : List LogRecord, (verdictSample.run [] none "" words).2.err =
        String.join (told.map LogRecord.streamLine) ++ "File or folder do not exist. Cannot continue.\n") ∧
    (∃ words, (verdictSample.run [Grammar.bundled] none "" words).2 = ⟨.exit .success, "\n1      A\n",
      "[usingstats] INFO Loading a.csproj\n[usingstats] INFO Walking 1 syntax trees\n" ++
        "Project file not found: /r/m.csproj\n"⟩) ∧
    ∃ words, (verdictSample.run [⟨"this", false, .nothing, "Hello\n", none⟩] none "" words).2 =
      ⟨.exit .grammarNotFound, "Hello\n",
        "Unable to locate the C# grammar 'this' (module does not expose language()). Cannot continue.\n"⟩ := by
  have failed : (verdictSample.run [] none "" ["--config", "c.yml", "none"]).2.ending =
      .exit .pathNotFound := by decide +kernel
  have first : verdictSample.session.firstComplaint? [] none ["--config", "c.yml", "none"] =
      some (.path, "File or folder do not exist. Cannot continue.\n") := by decide +kernel
  obtain ⟨silent, verdict⟩ := run_verdict verdictSample [] none "" _ _ failed
  rw [first] at verdict
  obtain ⟨_, _, out, _, err⟩ := verdict
  exact ⟨⟨_, by decide +kernel, failed, out.trans (silent nofun), err⟩, ⟨["a.csproj"], by decide +kernel⟩,
    ["--config", "g.yml", "a.csproj"], by decide +kernel⟩

end Host

end UsingCensus
