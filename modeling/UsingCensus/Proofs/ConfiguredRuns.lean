import UsingCensus.Proofs.ConfigurationFaults
import UsingCensus.Proofs.Ranked
import UsingCensus.Proofs.SettingDepths
import UsingCensus.Proofs.Switches
import UsingCensus.Proofs.Tours

/-!
Runs with a configuration file. Main statement: a file that holds a mapping makes a configuration exactly if its
settings have values that are admitted, and neither from the command line nor from a file does a run get a limit below
zero or no workers.
-/
namespace UsingCensus

namespace CommandLine

open Request

def Request.Staffed : Request → Prop
  | .help => True
  | .run arguments => arguments.maxWorkers ≠ some 0

theorem positive_ne_zero {switch : Switch} {text : String} {number : Nat}
    (read : positive switch text = .ok number) : number ≠ 0 := by
  unfold positive at read
  split at read
  · cases read
  · rename_i other
    rintro rfl
    exact other read

theorem staffed_addValue {arguments next : Arguments} {switch : Switch} {text : String}
    (staffed : arguments.maxWorkers ≠ some 0) (added : addValue arguments switch text = .ok next) :
    next.maxWorkers ≠ some 0 := by
  unfold addValue at added
  split at added
  · cases read : natural .count text with
    | error fault =>
      rw [read] at added
      cases added
    | ok number =>
      rw [read] at added
      cases added
      exact staffed
  · cases read : positive .maxWorkers text with
    | error fault =>
      rw [read] at added
      cases added
    | ok number =>
      rw [read] at added
      cases added
      exact fun none => positive_ne_zero read (Option.some.inj none)
  · cases added
    exact staffed
  · cases added
    exact staffed
  · cases added
    exact staffed

theorem staffed_add {request : Request} (staffed : request.Staffed) (use : Use) :
    Answers Request.Staffed (fun _ => True) (Request.add request use) := by
  unfold Request.add
  split
  · trivial
  · trivial
  · exact staffed
  · exact staffed
  · exact staffed
  · rename_i arguments switch text
    cases added : addValue arguments switch text with
    | error fault => trivial
    | ok next => exact staffed_addValue staffed added

theorem staffed_uses {arguments : Arguments} (staffed : arguments.maxWorkers ≠ some 0) (uses : List Use) :
    Answers Request.Staffed (fun _ => True) (uses.foldlM Request.add (.run arguments)) := by
  have first : Request.Staffed (.run arguments) := staffed
  exact Answers.foldlM first fun _ use kept => staffed_add kept use

theorem staffed_readWords (arguments : Arguments) (path : Option String) (extras : List String) (words : List Word)
    (staffed : arguments.maxWorkers ≠ some 0) :
    Answers Request.Staffed (fun _ => True) (readWords arguments path extras words) := by
  fun_induction readWords arguments path extras words with
  | case1 arguments path => exact staffed
  | case2 => trivial
  | case3 arguments path extras text rest ih => exact ih staffed
  | case4 => trivial
  | case5 => trivial
  | case6 => trivial
  | case7 arguments path extras switch attached cluster read rest whole next added ih =>
    exact ih ((staffed_uses staffed _).value_of_eq added)
  | case8 => trivial
  | case9 => trivial
  | case10 arguments path extras switch attached cluster read waiting value rest unfilled next added ih =>
    exact ih ((staffed_uses staffed _).value_of_eq added)
  | case11 => trivial
  | case12 arguments extras text rest ih => exact ih staffed
  | case13 arguments extras text rest bare ih => exact ih staffed
  | case14 arguments extras text val rest ih => exact ih staffed
  | case15 arguments extras text rest ih => exact ih staffed
  | case16 arguments extras rest bare ih => exact ih staffed
  | case17 arguments extras val rest ih => exact ih staffed

theorem maxWorkers_ne_zero {words : List String} {arguments : Arguments}
    (reads : read words = .ok (.run arguments)) : arguments.maxWorkers ≠ some 0 := by
  unfold read at reads
  cases spelled : Word.ofTexts words with
  | error fault =>
    rw [spelled] at reads
    cases reads
  | ok words =>
    rw [spelled] at reads
    exact (staffed_readWords .standard none [] words nofun).value_of_eq reads

end CommandLine

/-- A limit and a number of workers that make sense. -/
structure CensusOptions.InRange (options : CensusOptions) : Prop where
  count : ∀ size, options.count = some size → 0 ≤ size
  workers : ∀ number, options.workers = some number → 1 ≤ number

namespace CensusOptions.InRange

variable {options : CensusOptions}

theorem exists_rank (inRange : options.InRange) (entries : List (String × Int)) :
    ∃ rows, rank options.count entries = .ok rows :=
  ⟨_, rank_eq_ok_iff.mpr ⟨inRange.count, rfl⟩⟩

theorem staffed (inRange : options.InRange) : options.workers.any (· < 0) = false := by
  cases asked : options.workers with
  | none => rfl
  | some number =>
    have positive := inRange.workers number asked
    rw [Option.any_some, decide_eq_false_iff_not]
    omega

theorem crew_pos (inRange : options.InRange) {fitting : Nat} (positive : 0 < fitting) :
    1 ≤ options.crew fitting := by
  unfold CensusOptions.crew
  cases asked : options.workers with
  | none => exact positive
  | some number =>
    have above := inRange.workers number asked
    dsimp only
    rw [if_pos (by omega)]
    omega

end CensusOptions.InRange

def CensusFault.isOutOfRange : CensusFault → Bool
  | noWorkers => true
  | ranking _ => true
  | _ => false

/-! ### Censuses -/

section

variable {around : Surroundings} {modules : List GrammarModule} {options : CensusOptions}

theorem exists_conclude (inRange : options.InRange) (goal : Target) (loading : Loading) (documents : List Path)
    (yielded : Harvest) : ∃ census, Milestone.conclude options goal loading documents yielded = .ok census := by
  unfold Milestone.conclude
  obtain ⟨rows, ranked⟩ := inRange.exists_rank yielded.tally.snapshot
  rw [ranked]
  exact ⟨_, rfl⟩

/-- A census in range does not end for its options. -/
theorem census_inRange (inRange : options.InRange) (disturbance : Option Disturbance) (target : Target)
    {fault : CensusFault}
    (failed : (around.census modules disturbance options target).follow.1 = .error fault) :
    fault.isOutOfRange = false := by
  have came := around.outcome_census modules disturbance options target (show Progress.start.cancelled = false from rfl)
  rw [Course.follow_eq_outcome, came] at failed
  split at failed
  · cases failed
    rfl
  split at failed
  · cases failed
    rfl
  split at failed
  · cases failed
    rfl
  dsimp only at failed
  split at failed
  · cases failed
    rfl
  split at failed
  · cases failed
    rfl
  split at failed
  · rename_i refused
    cases inRange.staffed.symm.trans refused.2
  split at failed
  · cases failed
    rfl
  obtain ⟨census, concluded⟩ := exists_conclude inRange target (around.openWorkspace target.resolved)
    (options.selection.documents (around.openWorkspace target.resolved).projects)
    (around.reap Harvest.empty (options.selection.documents (around.openWorkspace target.resolved).projects))
  cases concluded.symm.trans failed

end

namespace Tour

variable {around : Surroundings} {modules : List GrammarModule} {options : CensusOptions} {fitting : Nat}
  {commission : Commission} {tour next : Tour} {trace : List TourEvent}

/-- The tour has not ended for its options. -/
def KeepsRange (tour : Tour) : Prop := ∀ fault, tour.stage = .ended (.error fault) → fault.isOutOfRange = false

theorem keepsRange_proceed (inRange : options.InRange) {milestone : Milestone} {fault : CensusFault}
    (ended : milestone.proceed around modules options = .ended (.error fault)) : fault.isOutOfRange = false := by
  cases milestone with
  | called path =>
    simp only [Milestone.proceed] at ended
    split at ended <;> cases ended
    rfl
  | target goal =>
    simp only [Milestone.proceed] at ended
    split at ended <;> cases ended
    rfl
  | grammar goal =>
    simp only [Milestone.proceed] at ended
    split at ended <;> cases ended
    rfl
  | workspace goal loading =>
    simp only [Milestone.proceed] at ended
    split at ended
    · rename_i refused
      cases inRange.staffed.symm.trans refused.2
    · cases ended
  | harvest goal loading documents yielded =>
    obtain ⟨census, concluded⟩ := exists_conclude inRange goal loading documents yielded
    simp only [Milestone.proceed, concluded] at ended
    cases ended

theorem KeepsRange.step (inRange : options.InRange) {event : TourEvent} (keeps : tour.KeepsRange)
    (came : tour.step around modules options fitting event = some next) : next.KeepsRange := by
  intro fault ended
  cases event with
  | check =>
    obtain ⟨milestone, arrived, rfl⟩ := step_check came
    dsimp only at ended
    split at ended <;> cases ended
    rfl
  | proceed =>
    obtain ⟨milestone, cleared, rfl⟩ := step_proceed came
    exact keepsRange_proceed inRange ended
  | read event =>
    obtain ⟨room, pool, reading, read, rfl⟩ := step_read came
    cases ended
  | gather =>
    obtain ⟨room, reading, ⟨returned, rfl⟩ | ⟨raised, rfl⟩⟩ := step_gather came
    · cases ended
    · cases ended
      split <;> rfl
  | cancel =>
    rw [step_cancel came] at ended
    exact keeps fault ended
  | interrupt =>
    obtain ⟨goal, cleared, rfl⟩ := step_interrupt came
    cases ended
    rfl

/-- No schedule brings a tour in range to an end for its options. -/
theorem keepsRange_run (inRange : options.InRange)
    (ran : run around modules options fitting commission trace = some tour) : tour.KeepsRange := by
  have first : (start commission).KeepsRange := by
    intro fault ended
    cases commission <;> cases ended
  exact foldlM_keeps KeepsRange (fun event _ before after keeps came => keeps.step inRange came) first ran

end Tour

namespace Session

variable {arguments : CommandLine.Arguments} {configuration : Configuration}

theorem inRange_options (arguments : CommandLine.Arguments) (configuration : Configuration)
    (asked : arguments.maxWorkers ≠ some 0) (configured : configuration.maxWorkers ≠ some 0) :
    (options arguments configuration).InRange where
  count := by
    intro size limited
    obtain ⟨number, -, rfl⟩ := Option.map_eq_some_iff.mp limited
    exact Int.natCast_nonneg number
  workers := by
    intro number staffed
    obtain ⟨count, given, rfl⟩ := Option.map_eq_some_iff.mp staffed
    have positive : count ≠ 0 := by
      rintro rfl
      cases first : arguments.maxWorkers with
      | none =>
        rw [first] at given
        exact configured given
      | some own =>
        rw [first] at given
        exact asked (first.trans given)
    show (1 : Int) ≤ (count : Int)
    omega

end Session

namespace Surroundings

open UsingCensus.Configuration
open Yaml (Value)

variable {around : Surroundings} {path root : Path} {required : Bool} {entries : List (Value × Value)}
  {configuration : Configuration}

/-- A configuration file is there, in a directory, and holds a mapping. -/
def Sets (around : Surroundings) (path root : Path) (entries : List (Value × Value)) : Prop :=
  ∃ file entry bytes text, around.configurationFile path = .ok file ∧ around.canonicalOf file.parent = .ok root ∧
    around.probe file.toString = .ok (some entry) ∧ around.read file.toString = .ok bytes ∧
    Text.Utf8.decode bytes = .ok text ∧ IsMapping (Text.unifyLineEnds text) entries

theorem configuration_eq_ofEntries (sets : around.Sets path root entries) (required : Bool) :
    around.configuration path required = ofEntries root entries := by
  obtain ⟨file, entry, bytes, text, named, placed, stands, read, decoded, isMapping⟩ := sets
  rw [configuration_eq_of_exists named placed stands, readConfiguration, read]
  dsimp only
  rw [decoded]
  exact ofText_of_isMapping isMapping root file.name

theorem exists_entries (accepted : around.configuration path required = .ok configuration) :
    ∃ root entries, ofEntries root entries = .ok configuration := by
  unfold Surroundings.configuration at accepted
  obtain ⟨file, named, accepted⟩ := exists_of_bind accepted
  obtain ⟨root, placed, accepted⟩ := exists_of_bind accepted
  split at accepted
  · cases accepted
  · unfold readConfiguration at accepted
    split at accepted
    · cases accepted
    split at accepted
    · cases accepted
    unfold ofText at accepted
    split at accepted
    · exact ⟨root, [], accepted⟩
    split at accepted
    · cases accepted
    · cases accepted
    · exact ⟨root, [], accepted⟩
    · exact ⟨root, _, accepted⟩
    · cases accepted
  · split at accepted <;> cases accepted
    exact ⟨root, [], rfl⟩

end Surroundings

theorem Outcome.eq_of_failed {status : Option ExitStatus} {crash other : Crash} {complaint : String}
    (crashed : (failed status crash complaint).ending = .crash other) : crash = other := by
  cases status with
  | none => exact Ending.crash.inj crashed
  | some status => cases crashed

namespace Session

variable {around : Surroundings} {modules : List GrammarModule} {disturbance : Option Disturbance}
  {arguments : CommandLine.Arguments} {path : Path} {required : Bool} {configuration : Configuration}

theorem inRange_of_accepted {words : List String} (reads : CommandLine.read words = .ok (.run arguments))
    (accepted : around.configuration path required = .ok configuration) :
    (options arguments configuration).InRange := by
  obtain ⟨root, entries, made⟩ := Surroundings.exists_entries accepted
  exact inRange_options arguments configuration (CommandLine.maxWorkers_ne_zero reads)
    (Configuration.maxWorkers_ne_zero made)

theorem exists_path (configured : around.configurationFor arguments = .ok configuration) :
    ∃ path required, around.configuration path required = .ok configuration := by
  unfold Surroundings.configurationFor at configured
  split at configured
  · exact ⟨_, _, configured⟩
  · exact ⟨_, _, configured⟩

theorem perform_inRange {words : List String} (reads : CommandLine.read words = .ok (.run arguments))
    {fault : CensusFault}
    (crashed : (perform around modules disturbance arguments).2.ending = .crash (.census fault)) :
    fault.isOutOfRange = false := by
  cases resolves : around.resolveTarget arguments.path with
  | error cause =>
    rw [perform_of_unresolved resolves] at crashed
    cases Outcome.eq_of_failed crashed
  | ok target =>
    cases configured : around.configurationFor arguments with
    | error cause =>
      rw [perform_of_unconfigured resolves configured] at crashed
      cases Outcome.eq_of_failed crashed
    | ok configuration =>
      obtain ⟨path, required, accepted⟩ := exists_path configured
      rw [perform_of_configured resolves configured] at crashed
      unfold conclude at crashed
      split at crashed
      · cases crashed
      · rename_i cause failed
        cases Outcome.eq_of_failed crashed
        exact census_inRange (inRange_of_accepted reads accepted) disturbance target failed

/-- No run crashes for its options. -/
theorem run_inRange (session : Session) (stamp : String) (words : List String) {fault : CensusFault}
    (crashed : (session.run modules disturbance stamp words).2.ending = .crash (.census fault)) :
    fault.isOutOfRange = false := by
  unfold run at crashed
  cases reads : CommandLine.read words with
  | error cause =>
    rw [reads] at crashed
    cases crashed
  | ok request =>
    rw [reads] at crashed
    cases request with
    | help => cases crashed
    | run arguments =>
      dsimp only at crashed
      unfold runArguments at crashed
      split at crashed
      · cases crashed
      · exact perform_inRange reads crashed

end Session

/-! ### What is made of a file -/

namespace Configuration

open Yaml (Value)

/-- How a file with a mapping is judged. -/
structure Judged (around : Surroundings) (path : Path) (required : Bool) (root : Path)
    (entries : List (Value × Value)) : Prop where
  accepted : (∃ configuration, around.configuration path required = .ok configuration) ↔
    ∀ (setting : Setting) (value : Value), Gives entries setting.name value → setting.Admits value
  /-- The first setting whose value is not admitted is told. -/
  refused : ∀ (setting : Setting) (value : Value), Gives entries setting.name value → ¬ setting.Admits value →
    (∀ earlier ∈ setting.before, ∀ value, Gives entries earlier.name value → earlier.Admits value) →
    ∃ fault, around.configuration path required = .error fault ∧ IsAbout setting.name fault
  reflects : ∀ configuration, around.configuration path required = .ok configuration →
    Reflects root entries configuration
  /-- Neither the order of the entries nor whether the file is required counts. -/
  ordered : ∀ (other : Surroundings) (place : Path) (needed : Bool) (others : List (Value × Value)),
    Distinct entries → entries.Perm others → other.Sets place root others →
    other.configuration place needed = around.configuration path required
  /-- What is no setting does not count, wherever it stands. -/
  foreign : ∀ (other : Surroundings) (place : Path) (needed : Bool) (key value : Value)
    (front behind : List (Value × Value)), entries = front ++ behind →
    (∀ setting : Setting, key ≠ .text setting.name) → other.Sets place root (front ++ (key, value) :: behind) →
    other.configuration place needed = around.configuration path required

variable {around : Surroundings} {path root : Path} {entries : List (Value × Value)}

theorem judged_of_sets (sets : around.Sets path root entries) (required : Bool) :
    Judged around path required root entries where
  accepted := by
    simp only [Surroundings.configuration_eq_ofEntries sets, exists_ofEntries_iff, setting?_eq_some_iff]
  refused := by
    intro setting value given unadmitted earlier
    have present : setting? entries setting.name = some value := setting?_eq_some_iff.mpr given
    obtain ⟨fault, refused⟩ : ∃ fault, setting.refusal? value = some fault :=
      Option.ne_none_iff_exists'.mp (mt Setting.refusal?_eq_none_iff.mp unadmitted)
    have offends : setting.offence? entries = some fault := by rw [Setting.offence?, present, Option.bind_some, refused]
    refine ⟨fault, ?_, Setting.isAbout_of_refusal? refused⟩
    rw [Surroundings.configuration_eq_ofEntries sets]
    refine ofEntries_eq_error offends fun other member => Setting.offence?_eq_none_iff.mpr fun value given => ?_
    exact earlier other member value (setting?_eq_some_iff.mp given)
  reflects := by
    intro configuration accepted
    rw [Surroundings.configuration_eq_ofEntries sets] at accepted
    exact reflects_of_ofEntries accepted
  ordered := by
    intro other place needed others distinct permuted also
    rw [Surroundings.configuration_eq_ofEntries sets, Surroundings.configuration_eq_ofEntries also]
    exact (ofEntries_perm distinct permuted).symm
  foreign := by
    rintro other place needed key value front behind rfl strange also
    rw [Surroundings.configuration_eq_ofEntries sets, Surroundings.configuration_eq_ofEntries also]
    exact ofEntries_insert strange value front behind

/-- Whatever stands on the command line and in the files that are accepted, there is a ranking and a worker. -/
structure Served (arguments : CommandLine.Arguments) (configuration : Configuration) : Prop where
  inRange : (Session.options arguments configuration).InRange
  ranked : ∀ entries, ∃ rows, rank (Session.options arguments configuration).count entries = .ok rows
  staffed : ∀ fitting, 0 < fitting → 1 ≤ (Session.options arguments configuration).crew fitting
  toured : ∀ (around : Surroundings) (modules : List GrammarModule) (fitting : Nat) (commission : Commission)
    (trace : List TourEvent) (tour : Tour) (fault : CensusFault),
    Tour.run around modules (Session.options arguments configuration) fitting commission trace = some tour →
    tour.stage = .ended (.error fault) → fault.isOutOfRange = false

end Configuration

open UsingCensus.Configuration in
/-- A mapping in a file makes a configuration exactly if the settings in it have values that are admitted, and else
the first of them that has not is told, whatever its order and whatever else it holds; and no run gets a limit below
zero or no workers. -/
theorem configuration_judged {around : Surroundings} {path root : Path} {entries : List (Yaml.Value × Yaml.Value)}
    (sets : around.Sets path root entries) (required : Bool) :
    Judged around path required root entries ∧
    (∀ (words : List String) (arguments : CommandLine.Arguments) (other : Surroundings) (place : Path)
      (needed : Bool) (configuration : Configuration), CommandLine.read words = .ok (.run arguments) →
      other.configuration place needed = .ok configuration → Served arguments configuration) ∧
    ∀ (session : Session) (modules : List GrammarModule) (disturbance : Option Disturbance) (stamp : String)
      (words : List String) (fault : CensusFault),
      (session.run modules disturbance stamp words).2.ending = .crash (.census fault) → fault.isOutOfRange = false := by
  refine ⟨judged_of_sets sets required, ?_, ?_⟩
  · intro words arguments other place needed configuration reads accepted
    have inRange := Session.inRange_of_accepted reads accepted
    exact {
      inRange := inRange
      ranked := inRange.exists_rank
      staffed := fun fitting positive => inRange.crew_pos positive
      toured := fun around modules fitting commission trace tour fault ran ended =>
        Tour.keepsRange_run inRange ran fault ended }
  · intro session modules disturbance stamp words fault crashed
    exact session.run_inRange stamp words crashed

/-- What is said against the settings in a text, if it holds a mapping. -/
def Configuration.offences (text : List Char) : List (Option ConfigurationFault) :=
  match Yaml.Value.ofText depth text with
  | .ok (.mapping entries) => Setting.all.map (Setting.offence? entries)
  | _ => []

theorem Configuration.exists_of_offences {text : List Char} {first : Option ConfigurationFault}
    {rest : List (Option ConfigurationFault)} (said : offences text = first :: rest) :
    ∃ entries, Yaml.Value.ofText depth text = .ok (.mapping entries) ∧
      Setting.all.map (Setting.offence? entries) = first :: rest := by
  unfold offences at said
  split at said
  · rename_i entries made
    exact ⟨entries, made, said⟩
  · cases said

open UsingCensus.Configuration in
/-- Of two settings that are wrong the one that is checked first is told, though the other stands first. -/
theorem configuration_judged_sample :
    ∃ (around : Surroundings) (entries : List (Yaml.Value × Yaml.Value)),
      around.Sets ⟨.here, []⟩ ⟨.root, ["r"]⟩ entries ∧
      (∃ value, Gives entries "max_workers" value ∧ ¬ Setting.maxWorkers.Admits value) ∧
      ∃ fault, around.configuration ⟨.here, []⟩ false = .error fault ∧ IsAbout "count" fault := by
  let around := Session.configuredSample (Text.Utf8.ofString "max_workers: 0\ncount: -1")
  let file : Path := ⟨.root, ["r", ".usingstats.yml"]⟩
  let text := "max_workers: 0\ncount: -1".toList
  have named : around.configurationFile ⟨.here, []⟩ = .ok file := by decide +kernel
  have placed : around.canonicalOf file.parent = .ok ⟨.root, ["r"]⟩ := by decide +kernel
  have stands : around.probe file.toString = .ok (some (.file (Text.Utf8.ofString (String.ofList text)))) := by
    decide +kernel
  have read : around.read file.toString = .ok (Text.Utf8.ofString (String.ofList text)) := by decide +kernel
  have decoded : Text.Utf8.decode (Text.Utf8.ofString (String.ofList text)) = .ok text := by decide +kernel
  have plain : Text.unifyLineEnds text = text := by decide +kernel
  have filled : Text.trim text ≠ [] := by decide +kernel
  have said : offences text =
      [some (.negative "count"), none, some (.notPositive "max_workers"), none, none, none] := by
    decide +kernel
  obtain ⟨entries, made, said⟩ := exists_of_offences said
  have count : Setting.count.offence? entries = some (.negative "count") := (List.cons.inj said).1
  have maxWorkers : Setting.maxWorkers.offence? entries = some (.notPositive "max_workers") :=
    (List.cons.inj (List.cons.inj (List.cons.inj said).2).2).1
  have isMapping : IsMapping (Text.unifyLineEnds text) entries := plain.symm ▸ .entries filled made (Nat.le_refl _)
  have sets : around.Sets ⟨.here, []⟩ ⟨.root, ["r"]⟩ entries :=
    ⟨file, _, _, text, named, placed, stands, read, decoded, isMapping⟩
  obtain ⟨value, given, refused⟩ := Setting.exists_of_offence? maxWorkers
  obtain ⟨number, first, negative⟩ := Setting.exists_of_offence? count
  refine ⟨around, entries, sets, ⟨value, setting?_eq_some_iff.mp given, refused⟩, ?_⟩
  exact (configuration_judged sets false).1.refused .count number (setting?_eq_some_iff.mp first) negative
    fun earlier before => absurd before List.not_mem_nil

end UsingCensus
