import UsingCensus.Proofs.Settings
import UsingCensus.Proofs.Verdicts
import UsingCensus.Proofs.YamlValues

/-!
Faults of configuration files. Main statement: a file that exists makes a configuration or a fault that is told as
one, unless its bytes are no text or its text is formed well and has no value; and a run ends with the status for
configurations exactly for the faults that are told.
-/
namespace UsingCensus

namespace Configuration

open Yaml (Value)

/-- A text that is not blank, is formed well and has no value. -/
def LacksValue (text : List Char) (cause : Yaml.Fault) : Prop :=
  Text.trim text ≠ [] ∧ Value.ofText depth text = .error cause ∧ cause ≠ .malformed

theorem ofText_fails_iff (root : Path) (name : String) (text : List Char) (fault : ConfigurationFault) :
    (ofText root name text = .error fault ∧ fault.isReported = false) ↔
      ∃ cause, LacksValue text cause ∧ fault = .senseless cause := by
  have told {entries : List (Value × Value)} (failed : ofEntries root entries = .error fault)
      (silent : fault.isReported = false) : False := by
    cases (isReported_of_ofEntries failed).symm.trans silent
  constructor
  · rintro ⟨failed, silent⟩
    unfold ofText at failed
    split at failed
    · exact (told failed silent).elim
    rename_i filled
    split at failed
    · cases failed
      cases silent
    · rename_i cause formed unvalued
      cases failed
      exact ⟨cause, ⟨filled, unvalued, formed⟩, rfl⟩
    · exact (told failed silent).elim
    · exact (told failed silent).elim
    · cases failed
      cases silent
  · rintro ⟨cause, ⟨filled, unvalued, formed⟩, rfl⟩
    refine ⟨?_, rfl⟩
    unfold ofText
    rw [if_neg filled, unvalued]
    cases cause with
    | malformed => exact absurd rfl formed
    | _ => rfl

/-- Bytes that are no text, or a text that lacks its value. -/
inductive Breaks (bytes : List UInt8) : ConfigurationFault → Prop where
  | undecodable {cause : Text.DecodeFault} : Text.Utf8.decode bytes = .error cause →
      Breaks bytes (.undecodable cause)
  | senseless {text : List Char} {cause : Yaml.Fault} : Text.Utf8.decode bytes = .ok text →
      LacksValue (Text.unifyLineEnds text) cause → Breaks bytes (.senseless cause)

end Configuration

namespace Surroundings

open UsingCensus.Configuration

variable {around : Surroundings} {path file root : Path} {entry : Entry}

theorem readConfiguration_fails_iff (around : Surroundings) (root file : Path) (fault : ConfigurationFault) :
    (around.readConfiguration root file = .error fault ∧ fault.isReported = false) ↔
      ∃ bytes, around.read file.toString = .ok bytes ∧ Breaks bytes fault := by
  constructor
  · rintro ⟨failed, silent⟩
    unfold readConfiguration at failed
    cases read : around.read file.toString with
    | error cause =>
      rw [read] at failed
      cases failed
      cases silent
    | ok bytes =>
      rw [read] at failed
      refine ⟨bytes, rfl, ?_⟩
      dsimp only at failed
      cases decoded : Text.Utf8.decode bytes with
      | error cause =>
        rw [decoded] at failed
        cases failed
        exact .undecodable decoded
      | ok text =>
        rw [decoded] at failed
        obtain ⟨cause, lacks, rfl⟩ := (ofText_fails_iff root file.name _ fault).mp ⟨failed, silent⟩
        exact .senseless decoded lacks
  · rintro ⟨bytes, read, breaks⟩
    unfold readConfiguration
    rw [read]
    dsimp only
    cases breaks with
    | undecodable decoded =>
      rw [decoded]
      exact ⟨rfl, rfl⟩
    | senseless decoded lacks =>
      rw [decoded]
      exact (ofText_fails_iff root file.name _ _).mpr ⟨_, lacks, rfl⟩

theorem configuration_eq_of_exists (named : around.configurationFile path = .ok file)
    (placed : around.canonicalOf file.parent = .ok root) (stands : around.probe file.toString = .ok (some entry))
    (required : Bool) : around.configuration path required = around.readConfiguration root file := by
  simp only [configuration, named, placed, bind, Except.bind, stands]

end Surroundings

namespace Session

open UsingCensus.Configuration

variable {around : Surroundings} {path file root : Path} {entry : Entry}

theorem ending_of_set {session : Session} {modules : List GrammarModule} {disturbance : Option Disturbance}
    {stamp : String} {words : List String} {arguments : CommandLine.Arguments} {log : Log}
    (reads : CommandLine.read words = .ok (.run arguments))
    (set : Log.configure ⟨arguments.verbose, arguments.noWarn, arguments.logFile⟩ session.around =
      (log, around, none)) :
    (session.run modules disturbance stamp words).2.ending =
      (perform around modules disturbance arguments).2.ending := by
  unfold run
  rw [reads]
  dsimp only
  unfold runArguments
  rw [set]
  rfl

theorem ending_of_unconfigured {session : Session} {modules : List GrammarModule} {disturbance : Option Disturbance}
    {stamp : String} {words : List String} {arguments : CommandLine.Arguments} {log : Log} {target : Target}
    {fault : ConfigurationFault} (reads : CommandLine.read words = .ok (.run arguments))
    (set : Log.configure ⟨arguments.verbose, arguments.noWarn, arguments.logFile⟩ session.around = (log, around, none))
    (resolves : around.resolveTarget arguments.path = .ok target)
    (configured : around.configurationFor arguments = .error fault) :
    (session.run modules disturbance stamp words).2.ending =
      if fault.isReported then .exit .configurationInvalid else .crash (.configuration fault) := by
  rw [ending_of_set reads set, perform_of_unconfigured resolves configured, ConfigurationFault.status?]
  cases fault.isReported <;> rfl

/-- An existing file makes a configuration or a fault that is told, unless its bytes are no text, or the text is
written with an escape or a number out of bounds, or a node of it makes no sense; and for exactly the faults that are
told a run ends with the status for them. -/
theorem configuration_answers (named : around.configurationFile path = .ok file)
    (placed : around.canonicalOf file.parent = .ok root) (stands : around.probe file.toString = .ok (some entry))
    (required : Bool) :
    (∀ fault, (around.configuration path required = .error fault ∧ fault.isReported = false) ↔
      ∃ bytes, around.read file.toString = .ok bytes ∧ Breaks bytes fault) ∧
    (∀ bytes fault, Breaks bytes fault →
      (∃ cause, fault = .undecodable cause ∧ Text.Utf8.decode bytes = .error cause) ∨
      ∃ text cause, fault = .senseless cause ∧ Text.Utf8.decode bytes = .ok text ∧
        Yaml.Unmeant (Text.unifyLineEnds text) cause) ∧
    ∀ (session : Session) (modules : List GrammarModule) (disturbance : Option Disturbance) (stamp : String)
      (words : List String) (arguments : CommandLine.Arguments) (log : Log) (target : Target)
      (fault : ConfigurationFault), CommandLine.read words = .ok (.run arguments) →
      Log.configure ⟨arguments.verbose, arguments.noWarn, arguments.logFile⟩ session.around = (log, around, none) →
      around.resolveTarget arguments.path = .ok target →
      around.configurationFor arguments = around.configuration path required →
      around.configuration path required = .error fault →
      (session.run modules disturbance stamp words).2.ending =
        if fault.isReported then .exit .configurationInvalid else .crash (.configuration fault) := by
  rw [around.configuration_eq_of_exists named placed stands]
  refine ⟨around.readConfiguration_fails_iff root file, fun bytes fault breaks => ?_, ?_⟩
  · cases breaks with
    | undecodable decoded => exact .inl ⟨_, rfl, decoded⟩
    | senseless decoded lacks =>
      exact .inr ⟨_, _, rfl, decoded, Yaml.unmeant_of_ofText lacks.2.1 lacks.2.2⟩
  · intro session modules disturbance stamp words arguments log target fault reads set resolves same failed
    exact ending_of_unconfigured reads set resolves (same.trans failed)

def configuredSample (bytes : List UInt8) : Surroundings where
  tree := [(["r", "a.csproj"], Text.Utf8.ofString "<P/>"), (["r", ".usingstats.yml"], bytes)].foldl
    (fun tree (location, bytes) => tree.plant location (.file bytes)) FileTree.empty
  directory := ["r"]
  home := "/r"

/-- A number below zero is told, and a month that there is not breaks the run. -/
theorem configuration_answers_sample :
    ∃ told broken : Surroundings,
      told.configuration ⟨.here, []⟩ false = .error (.negative "count") ∧
      broken.configuration ⟨.here, []⟩ false = .error (.senseless (.timestamp .month)) ∧
      (∃ bytes, broken.read "/r/.usingstats.yml" = .ok bytes ∧ Breaks bytes (.senseless (.timestamp .month))) ∧
      ((start told).run [] none "" ["a.csproj"]).2.ending = .exit .configurationInvalid ∧
      ((start broken).run [] none "" ["a.csproj"]).2.ending =
        .crash (.configuration (.senseless (.timestamp .month))) := by
  let told := configuredSample (Text.Utf8.ofString "count: -1")
  let broken := configuredSample (Text.Utf8.ofString "x: 2020-13-01")
  let file : Path := ⟨.root, ["r", ".usingstats.yml"]⟩
  let arguments : CommandLine.Arguments := ⟨"a.csproj", none, false, none, none, false, none⟩
  let target : Target := ⟨"a.csproj", ⟨.root, ["r", "a.csproj"]⟩, .file⟩
  have reads : CommandLine.read ["a.csproj"] = .ok (.run arguments) := by decide +kernel
  have negative : told.configuration ⟨.here, []⟩ false = .error (.negative "count") := by decide +kernel
  have month : broken.configuration ⟨.here, []⟩ false = .error (.senseless (.timestamp .month)) := by decide +kernel
  have named : told.configurationFile ⟨.here, []⟩ = .ok file ∧ broken.configurationFile ⟨.here, []⟩ = .ok file := by
    decide +kernel
  have placed : told.canonicalOf file.parent = .ok ⟨.root, ["r"]⟩ ∧
      broken.canonicalOf file.parent = .ok ⟨.root, ["r"]⟩ := by
    decide +kernel
  have stands : told.probe file.toString = .ok (some (.file (Text.Utf8.ofString "count: -1"))) ∧
      broken.probe file.toString = .ok (some (.file (Text.Utf8.ofString "x: 2020-13-01"))) := by
    decide +kernel
  have answers := configuration_answers named.1 placed.1 stands.1 false
  have breaks := configuration_answers named.2 placed.2 stands.2 false
  have set (around : Surroundings) : Log.configure ⟨arguments.verbose, arguments.noWarn, arguments.logFile⟩ around =
    (_, around, none) := Log.configure_of_no_file rfl
  refine ⟨told, broken, negative, month, (breaks.1 _).mp ⟨month, rfl⟩, ?_, ?_⟩
  · exact answers.2.2 (start told) [] none "" _ arguments _ target _ reads (set told) (by decide +kernel)
      (by decide +kernel) negative
  · exact breaks.2.2 (start broken) [] none "" _ arguments _ target _ reads (set broken) (by decide +kernel)
      (by decide +kernel) month

end Session
end UsingCensus
