import UsingCensus.Proofs.ConfiguredRuns
import UsingCensus.Proofs.Exclusions
import UsingCensus.Proofs.Onward

/-!
Names of grammars. Main statement: a name in a configuration gives a grammar, or a fault that is told as a grammar that
cannot be located, unless it starts with a dot or a module of it raises what nothing takes up; and for exactly the
faults that are told a run ends with the status for grammars.
-/
namespace UsingCensus

namespace Grammar

variable {modules : List GrammarModule} {name part absent : String}

/-- The name up to a dot in it, or all of it. -/
def IsBeginning (part name : String) : Prop :=
  part = name ∨ ∃ rest, name.toList = part.toList ++ '.' :: rest

/-- A name that starts with a dot says where to look from another module. -/
def IsRelative (name : String) : Prop := ∃ rest, name.toList = '.' :: rest

def Imports (modules : List GrammarModule) (name : String) : Prop :=
  ∃ found, module? modules name = some found ∧ found.mishap = none

/-- All that the name says can be imported, and what it stands for offers a language. -/
structure Works (modules : List GrammarModule) (name : String) (version : Nat) : Prop where
  absolute : ¬ IsRelative name
  installed : ∀ part, IsBeginning part name → Imports modules part
  offers : ∃ found, module? modules name = some found ∧ found.offer = .language version

/-- A beginning of a name, all shorter ones of which can be imported. -/
structure Reaches (modules : List GrammarModule) (name stop : String) : Prop where
  begins : IsBeginning stop name
  others : ∀ part, IsBeginning part stop → part ≠ stop → Imports modules part

/-- The shortest beginning of a name that cannot be imported is not installed. -/
structure Misses (modules : List GrammarModule) (name absent : String) : Prop extends Reaches modules name absent where
  missing : module? modules absent = none

/-- The shortest beginning of a name that cannot be imported is a module that fails. -/
structure Fails (modules : List GrammarModule) (name : String) (mishap : ImportMishap) : Prop where
  reaches : ∃ found, module? modules found.name = some found ∧ found.mishap = some mishap ∧
    Reaches modules name found.name

/-- What the name says cannot be imported, for a module of it raises what nothing takes up. -/
structure Breaks (modules : List GrammarModule) (name reason : String) : Prop where
  absolute : ¬ IsRelative name
  fails : Fails modules name (.raised reason)

/-- What can be wrong with a name that is not relative. -/
inductive Lacks (modules : List GrammarModule) (name : String) : GrammarFault → Prop where
  | missing {absent : String} (misses : Misses modules name absent) : Lacks modules name (.missing name absent)
  | notPackage {absent : String} {parent : GrammarModule} (misses : Misses modules name absent)
      (found : module? modules parent.name = some parent) (inside : IsBeginning parent.name absent)
      (plain : parent.isPackage = false) : Lacks modules name (.notPackage name absent parent.name)
  | refused {reason : String} (fails : Fails modules name (.refused reason)) :
      Lacks modules name (.refused name reason)
  | noLanguage {found : GrammarModule} (installed : module? modules name = some found)
      (nothing : found.offer = .nothing) : Lacks modules name (.noLanguage name)
  | unusable {found : GrammarModule} (installed : module? modules name = some found)
      (useless : found.offer = .unusable) : Lacks modules name (.unusable name)

/-! ### Beginnings -/

def beginning (name : String) (dots : Nat) : String :=
  String.ofList (Text.joinWith '.' ((Text.splitAt '.' name.toList).take (dots + 1)))

def parts (name : String) : Nat := (Text.splitAt '.' name.toList).length

theorem beginnings_eq (name : String) : beginnings name = (List.range (parts name)).map (beginning name) := rfl

theorem parts_pos (name : String) : 0 < parts name :=
  List.length_pos_iff.mpr (Text.splitAt_ne_nil '.' name.toList)

theorem beginning_all (name : String) {dots : Nat} (all : parts name ≤ dots + 1) : beginning name dots = name := by
  rw [beginning, List.take_of_length_le all, Text.joinWith_splitAt, String.ofList_toList]

theorem isBeginning_beginning (name : String) (dots : Nat) : IsBeginning (beginning name dots) name := by
  by_cases all : parts name ≤ dots + 1
  · exact .inl (beginning_all name all)
  · refine .inr ⟨Text.joinWith '.' ((Text.splitAt '.' name.toList).drop (dots + 1)), ?_⟩
    have front : (Text.splitAt '.' name.toList).take (dots + 1) ≠ [] := by
      have positive := parts_pos name
      rw [ne_eq, List.take_eq_nil_iff]
      rintro (none | none)
      · omega
      · exact Text.splitAt_ne_nil _ _ none
    have behind : (Text.splitAt '.' name.toList).drop (dots + 1) ≠ [] := by
      rw [ne_eq, List.drop_eq_nil_iff]
      exact all
    rw [beginning, String.toList_ofList, ← Text.joinWith_append front behind, List.take_append_drop,
      Text.joinWith_splitAt]

theorem exists_beginning (begins : IsBeginning part name) : ∃ dots < parts name, part = beginning name dots := by
  rcases begins with rfl | ⟨rest, split⟩
  · have positive := parts_pos part
    exact ⟨parts part - 1, by omega, (beginning_all part (by omega)).symm⟩
  · have cut := Text.splitAt_append_cons '.' part.toList rest
    rw [← split] at cut
    have positive := parts_pos part
    refine ⟨parts part - 1, ?_, ?_⟩
    · have more := List.length_pos_iff.mpr (Text.splitAt_ne_nil '.' rest)
      rw [parts, parts, cut, List.length_append]
      omega
    · have own : parts part - 1 + 1 = (Text.splitAt '.' part.toList).length := by
        rw [parts] at positive ⊢
        omega
      rw [beginning, cut, own, List.take_left', Text.joinWith_splitAt, String.ofList_toList]
      rfl

theorem mem_beginnings_iff : part ∈ beginnings name ↔ IsBeginning part name := by
  rw [beginnings_eq, List.mem_map]
  constructor
  · rintro ⟨dots, -, rfl⟩
    exact isBeginning_beginning name dots
  · intro begins
    obtain ⟨dots, within, same⟩ := exists_beginning begins
    exact ⟨dots, List.mem_range.mpr within, same.symm⟩

theorem beginnings_beginning {dots : Nat} (within : dots < parts name) :
    beginnings (beginning name dots) = (List.range (dots + 1)).map (beginning name) := by
  have cut : Text.splitAt '.' (beginning name dots).toList = (Text.splitAt '.' name.toList).take (dots + 1) := by
    rw [beginning, String.toList_ofList]
    refine Text.splitAt_joinWith ?_ fun part member => Text.not_mem_of_mem_splitAt (List.mem_of_mem_take member)
    rw [ne_eq, List.take_eq_nil_iff]
    rintro (none | none)
    · omega
    · exact Text.splitAt_ne_nil _ _ none
  have count : parts (beginning name dots) = dots + 1 := by
    rw [parts, cut, List.length_take]
    rw [parts] at within
    omega
  rw [beginnings_eq, count]
  refine List.map_congr_left fun fewer member => ?_
  have less := List.mem_range.mp member
  rw [beginning, cut, List.take_take, Nat.min_eq_left (by omega), beginning]

/-! ### Where an import stops -/

theorem firstStop?_eq_none_iff {parent : Option GrammarModule} {names : List String} :
    firstStop? modules parent names = none ↔ ∀ part ∈ names, Imports modules part := by
  induction names generalizing parent with
  | nil => simp [firstStop?]
  | cons first rest ih =>
    rw [firstStop?, List.forall_mem_cons, Imports]
    cases installed : module? modules first with
    | none => simp
    | some found => cases mishap : found.mishap <;> simp [mishap, ih]

theorem exists_of_firstStop? {parent : Option GrammarModule} {names : List String} {stop : ImportStop}
    (stopped : firstStop? modules parent names = some stop) :
    ∃ before part after, names = before ++ part :: after ∧ (∀ name ∈ before, Imports modules name) ∧
      match stop with
      | .absent absent last =>
        absent = part ∧ module? modules part = none ∧ (last = parent ∨ ∃ name ∈ before, module? modules name = last)
      | .failed mishap => ∃ found, module? modules part = some found ∧ found.mishap = some mishap := by
  induction names generalizing parent with
  | nil => cases stopped
  | cons first rest ih =>
    rw [firstStop?] at stopped
    cases installed : module? modules first with
    | none =>
      rw [installed] at stopped
      cases stopped
      exact ⟨[], first, rest, rfl, nofun, rfl, installed, .inl rfl⟩
    | some found =>
      rw [installed] at stopped
      dsimp only at stopped
      cases mishap : found.mishap with
      | some mishap' =>
        rw [mishap] at stopped
        cases stopped
        exact ⟨[], first, rest, rfl, nofun, found, installed, mishap⟩
      | none =>
        rw [mishap] at stopped
        obtain ⟨before, part, after, rfl, others, reason⟩ := ih stopped
        refine ⟨first :: before, part, after, rfl,
          List.forall_mem_cons.mpr ⟨⟨found, installed, mishap⟩, others⟩, ?_⟩
        cases stop with
        | failed => exact reason
        | absent absent last =>
          obtain ⟨same, missing, came⟩ := reason
          refine ⟨same, missing, .inr ?_⟩
          rcases came with rfl | ⟨name, member, same⟩
          · exact ⟨first, List.mem_cons_self, installed⟩
          · exact ⟨name, List.mem_cons_of_mem _ member, same⟩

theorem beginnings_of_split {before after : List String} (split : beginnings name = before ++ absent :: after) :
    beginnings absent = before ++ [absent] := by
  have listed : beginnings name = (List.range (parts name)).map (beginning name) := beginnings_eq name
  have within : before.length < parts name := by
    have count := congrArg List.length split
    rw [listed, List.length_map, List.length_range, List.length_append, List.length_cons] at count
    omega
  have front : before = (List.range before.length).map (beginning name) := by
    have taken := congrArg (List.take before.length) split
    rw [List.take_left', listed, ← List.map_take, List.take_range, Nat.min_eq_left (Nat.le_of_lt within)] at taken
    · exact taken.symm
    · rfl
  have here : absent = beginning name before.length := by
    have found := congrArg (·[before.length]?) split
    simpa [listed, within, eq_comm] using found
  rw [here, beginnings_beginning within, List.range_succ, List.map_append, ← front]
  rfl

/-! ### What a search comes to -/

theorem name_of_module? {found : GrammarModule} (installed : module? modules name = some found) :
    found.name = name := by
  simpa using List.find?_some installed

theorem isRelative_iff : IsRelative name ↔ Text.startsIn name "." = true := by
  rw [Text.startsIn_iff]
  constructor
  · rintro ⟨rest, same⟩
    exact ⟨rest, same.symm⟩
  · rintro ⟨rest, same⟩
    exact ⟨rest, same.symm⟩

theorem Works.eq_of_module? {found : GrammarModule} {version : Nat} (works : Works modules name version)
    (installed : module? modules name = some found) : found.offer = .language version := by
  obtain ⟨other, same, offers⟩ := works.offers
  cases installed.symm.trans same
  exact offers

theorem Works.not_reaches {version : Nat} (works : Works modules name version)
    (unable : ¬ Imports modules part) : ¬ Reaches modules name part :=
  fun reaches => unable (works.installed part reaches.begins)

theorem Misses.not_works (misses : Misses modules name absent) (version : Nat) : ¬ Works modules name version :=
  fun works => works.not_reaches (fun ⟨_, installed, _⟩ => nomatch misses.missing.symm.trans installed)
    misses.toReaches

theorem Fails.not_works {mishap : ImportMishap} (fails : Fails modules name mishap) (version : Nat) :
    ¬ Works modules name version := by
  obtain ⟨found, installed, failed, reaches⟩ := fails.reaches
  refine fun works => works.not_reaches ?_ reaches
  rintro ⟨other, again, succeeds⟩
  cases installed.symm.trans again
  cases failed.symm.trans succeeds

theorem reaches_of_split {before after : List String} (split : beginnings name = before ++ part :: after)
    (others : ∀ name ∈ before, Imports modules name) : Reaches modules name part := by
  have begins : beginnings part = before ++ [part] := beginnings_of_split split
  have member : part ∈ beginnings name := split ▸ List.mem_append_right _ List.mem_cons_self
  refine ⟨mem_beginnings_iff.mp member, fun shorter begun other => others shorter ?_⟩
  have listed := begins ▸ mem_beginnings_iff.mpr begun
  rcases List.mem_append.mp listed with earlier | same
  · exact earlier
  · exact absurd (List.mem_singleton.mp same) other

theorem firstStop?_of_failed {before after : List String} {parent : Option GrammarModule} {found : GrammarModule}
    {mishap : ImportMishap} (others : ∀ name ∈ before, Imports modules name)
    (installed : module? modules part = some found) (failed : found.mishap = some mishap) :
    firstStop? modules parent (before ++ part :: after) = some (.failed mishap) := by
  induction before generalizing parent with
  | nil => simp [firstStop?, installed, failed]
  | cons first rest ih =>
    obtain ⟨⟨other, present, succeeds⟩, later⟩ := List.forall_mem_cons.mp others
    simpa [firstStop?, present, succeeds] using ih later

/-- An import stops in a module that fails if this is the shortest beginning that cannot be imported. -/
theorem firstStop?_eq_failed_iff {mishap : ImportMishap} :
    firstStop? modules none (beginnings name) = some (.failed mishap) ↔ Fails modules name mishap := by
  constructor
  · intro stopped
    obtain ⟨before, part, after, split, others, found, installed, failed⟩ := exists_of_firstStop? stopped
    have reaches := reaches_of_split split others
    obtain rfl := name_of_module? installed
    exact ⟨found, installed, failed, reaches⟩
  · rintro ⟨found, installed, failed, reaches⟩
    obtain ⟨before, after, split, fresh⟩ := List.eq_append_cons_of_mem (mem_beginnings_iff.mpr reaches.begins)
    have begins : beginnings found.name = before ++ [found.name] := beginnings_of_split split
    rw [split]
    refine firstStop?_of_failed (fun earlier member => reaches.others earlier ?_ ?_) installed failed
    · exact mem_beginnings_iff.mp (begins ▸ List.mem_append_left _ member)
    · rintro rfl
      exact fresh member

/-- What is not installed is the shortest beginning that cannot be imported, and the module before it is known. -/
theorem misses_of_firstStop? {last : Option GrammarModule}
    (stopped : firstStop? modules none (beginnings name) = some (.absent absent last)) :
    Misses modules name absent ∧
      ∀ parent, last = some parent → module? modules parent.name = some parent ∧ IsBeginning parent.name absent := by
  obtain ⟨before, part, after, split, others, rfl, missing, came⟩ := exists_of_firstStop? stopped
  refine ⟨⟨reaches_of_split split others, missing⟩, ?_⟩
  rintro parent rfl
  rcases came with impossible | ⟨part, earlier, found⟩
  · cases impossible
  · obtain rfl := name_of_module? found
    exact ⟨found, mem_beginnings_iff.mp (beginnings_of_split split ▸ List.mem_append_left _ earlier)⟩

theorem Breaks.not_works {reason : String} (breaks : Breaks modules name reason) (version : Nat) :
    ¬ Works modules name version := breaks.fails.not_works version

structure Wants (modules : List GrammarModule) (name : String) (fault : GrammarFault) : Prop where
  lacks : Lacks modules name fault
  reported : fault.isReported = true
  useless : ∀ version, ¬ Works modules name version
  whole : ∀ reason, ¬ Breaks modules name reason

theorem locate_eq (modules : List GrammarModule) (filled : name ≠ "") (absolute : ¬ IsRelative name) :
    (∃ version, Works modules name version ∧ locate modules name = .ok ⟨name, version⟩) ∨
      (∃ reason, Breaks modules name reason ∧ locate modules name = .error (.raised reason)) ∨
      ∃ fault, Wants modules name fault ∧ locate modules name = .error fault := by
  unfold locate
  rw [if_neg (mt isRelative_iff.mpr absolute), if_neg filled]
  cases search : firstStop? modules none (beginnings name) with
  | some stop =>
    have whole (other : ∀ reason, stop ≠ .failed (.raised reason)) (reason : String) :
        ¬ Breaks modules name reason := fun breaks =>
      other reason (Option.some.inj (search.symm.trans (firstStop?_eq_failed_iff.mpr breaks.fails)))
    cases stop with
    | absent absent last =>
      obtain ⟨misses, shorter⟩ := misses_of_firstStop? search
      have wants {fault : GrammarFault} (lacks : Lacks modules name fault) (reported : fault.isReported = true) :
          Wants modules name fault := ⟨lacks, reported, misses.not_works, whole nofun⟩
      right; right
      cases last with
      | none => exact ⟨_, wants (.missing misses) rfl, rfl⟩
      | some parent =>
        dsimp only
        split
        · exact ⟨_, wants (.missing misses) rfl, rfl⟩
        · rename_i plain
          obtain ⟨found, inside⟩ := shorter parent rfl
          exact ⟨_, wants (.notPackage misses found inside (Bool.eq_false_iff.mpr plain)) rfl, rfl⟩
    | failed mishap =>
      have fails := firstStop?_eq_failed_iff.mp search
      cases mishap with
      | refused reason => exact .inr (.inr ⟨_, ⟨.refused fails, rfl, fails.not_works, whole nofun⟩, rfl⟩)
      | raised reason => exact .inr (.inl ⟨reason, ⟨absolute, fails⟩, rfl⟩)
  | none =>
    have all := firstStop?_eq_none_iff.mp search
    obtain ⟨found, installed, -⟩ := all name (mem_beginnings_iff.mpr (.inl rfl))
    have whole (reason : String) : ¬ Breaks modules name reason := fun breaks =>
      nomatch search.symm.trans (firstStop?_eq_failed_iff.mpr breaks.fails)
    rw [installed]
    cases offer : found.offer with
    | language version =>
      left
      have imports (part : String) (begins : IsBeginning part name) := all part (mem_beginnings_iff.mpr begins)
      exact ⟨version, ⟨absolute, imports, found, installed, offer⟩, by simp [offer]⟩
    | nothing =>
      refine .inr (.inr ⟨_, ⟨.noLanguage installed offer, rfl, fun version works => ?_, whole⟩, by simp [offer]⟩)
      cases offer.symm.trans (works.eq_of_module? installed)
    | unusable =>
      refine .inr (.inr ⟨_, ⟨.unusable installed offer, rfl, fun version works => ?_, whole⟩, by simp [offer]⟩)
      cases offer.symm.trans (works.eq_of_module? installed)

/-- How the search for a name answers. -/
structure Answered (modules : List GrammarModule) (name : String) : Prop where
  found : ∀ grammar, locate modules name = .ok grammar ↔ grammar.name = name ∧ Works modules name grammar.version
  /-- What is not relative, does not work and does not break is told as a grammar that cannot be located. -/
  told : (∃ fault, locate modules name = .error fault ∧ fault.isReported = true) ↔
    ¬ IsRelative name ∧ (∀ version, ¬ Works modules name version) ∧ ∀ reason, ¬ Breaks modules name reason
  reason : ∀ fault, locate modules name = .error fault → fault.isReported = true → Lacks modules name fault
  untold : ∀ fault, (locate modules name = .error fault ∧ fault.isReported = false) ↔
    IsRelative name ∧ fault = .relative name ∨ ∃ reason, Breaks modules name reason ∧ fault = .raised reason

theorem answered_of_relative (relative : IsRelative name) : Answered modules name := by
  have failed : locate modules name = .error (.relative name) := by
    rw [locate, if_pos (isRelative_iff.mp relative)]
  refine ⟨fun grammar => ?_, ?_, fun fault told reported => ?_, fun fault => ?_⟩
  · rw [failed]
    exact ⟨nofun, fun both => absurd relative both.2.absolute⟩
  · rw [failed]
    constructor
    · rintro ⟨fault, same, reported⟩
      cases same
      cases reported
    · exact fun both => absurd relative both.1
  · cases failed.symm.trans told
    cases reported
  · rw [failed]
    constructor
    · rintro ⟨same, -⟩
      cases same
      exact .inl ⟨relative, rfl⟩
    · rintro (⟨-, rfl⟩ | ⟨reason, breaks, -⟩)
      · exact ⟨rfl, rfl⟩
      · exact absurd relative breaks.absolute

theorem answered_of_works {version : Nat} (works : Works modules name version)
    (located : locate modules name = .ok ⟨name, version⟩) : Answered modules name := by
  refine ⟨fun grammar => ?_, ?_, fun fault told => ?_, fun fault => ?_⟩
  · rw [located]
    constructor
    · intro same
      cases same
      exact ⟨rfl, works⟩
    · rintro ⟨rfl, also⟩
      obtain ⟨one, installed, offers⟩ := works.offers
      obtain ⟨other, again, alike⟩ := also.offers
      cases installed.symm.trans again
      cases offers.symm.trans alike
      rfl
  · rw [located]
    constructor
    · rintro ⟨fault, impossible, -⟩
      cases impossible
    · exact fun all => absurd works (all.2.1 version)
  · cases located.symm.trans told
  · rw [located]
    constructor
    · rintro ⟨impossible, -⟩
      cases impossible
    · rintro (⟨relative, -⟩ | ⟨reason, breaks, -⟩)
      · exact absurd relative works.absolute
      · exact absurd works (breaks.not_works version)

theorem answered_of_breaks {reason : String} (breaks : Breaks modules name reason)
    (failed : locate modules name = .error (.raised reason)) : Answered modules name := by
  refine ⟨fun grammar => ?_, ?_, fun fault told reported => ?_, fun fault => ?_⟩
  · rw [failed]
    exact ⟨nofun, fun both => absurd both.2 (breaks.not_works _)⟩
  · rw [failed]
    constructor
    · rintro ⟨fault, same, reported⟩
      cases same
      cases reported
    · exact fun all => absurd breaks (all.2.2 reason)
  · cases failed.symm.trans told
    cases reported
  · rw [failed]
    constructor
    · rintro ⟨same, -⟩
      cases same
      exact .inr ⟨reason, breaks, rfl⟩
    · rintro (⟨relative, -⟩ | ⟨other, also, rfl⟩)
      · exact absurd relative breaks.absolute
      · have one := firstStop?_eq_failed_iff.mpr breaks.fails
        cases one.symm.trans (firstStop?_eq_failed_iff.mpr also.fails)
        exact ⟨rfl, rfl⟩

theorem answered (filled : name ≠ "") : Answered modules name := by
  by_cases relative : IsRelative name
  · exact answered_of_relative relative
  rcases locate_eq modules filled relative with
    ⟨version, works, located⟩ | ⟨reason, breaks, failed⟩ | ⟨fault, wants, failed⟩
  · exact answered_of_works works located
  · exact answered_of_breaks breaks failed
  · refine ⟨fun grammar => ?_, ?_, fun other told _ => ?_, fun other => ?_⟩
    · rw [failed]
      exact ⟨nofun, fun both => absurd both.2 (wants.useless _)⟩
    · exact ⟨fun _ => ⟨relative, wants.useless, wants.whole⟩, fun _ => ⟨fault, failed, wants.reported⟩⟩
    · cases failed.symm.trans told
      exact wants.lacks
    · constructor
      · rintro ⟨told, silent⟩
        cases failed.symm.trans told
        cases wants.reported.symm.trans silent
      · rintro (⟨also, -⟩ | ⟨reason, breaks, -⟩)
        · exact absurd also relative
        · exact absurd breaks (wants.whole reason)

end Grammar

namespace Session

open UsingCensus.Configuration

variable {around : Surroundings} {modules : List GrammarModule} {disturbance : Option Disturbance}
  {arguments : CommandLine.Arguments} {target : Target} {configuration : Configuration}

theorem ending_of_unlocated (around : Surroundings) (arguments : CommandLine.Arguments) (target : Target)
    {fault : GrammarFault} (uninterrupted : disturbance ≠ some .interruption)
    (unlocated : Grammar.locate modules configuration.grammar = .error fault) (shown : Bool) :
    (conclude shown (around.census modules disturbance (options arguments configuration) target).follow.1).ending =
      if fault.isReported then .exit .grammarNotFound else .crash (.census (.grammar fault)) := by
  have came := around.outcome_census modules disturbance (options arguments configuration) target
    (show Progress.start.cancelled = false from rfl)
  have sought : Grammar.locate modules (options arguments configuration).grammar = .error fault := unlocated
  rw [if_neg uninterrupted, sought] at came
  rw [Course.follow_eq_outcome, came, conclude, CensusFault.status?]
  cases fault.isReported <;> rfl

theorem ending_of_located {grammar : Grammar} (located : Grammar.locate modules configuration.grammar = .ok grammar)
    (shown : Bool) :
    (conclude shown (around.census modules disturbance (options arguments configuration) target).follow.1).ending ≠
      .exit .grammarNotFound := by
  intro ended
  rcases around.census_cases modules disturbance (options arguments configuration) target with
    ⟨fault, counted, crashes⟩ | ⟨fault, -, missing, -⟩ | ⟨-, -, fault, counted, told, -⟩ | ⟨-, -, census, counted⟩
  · rw [counted, conclude, crashes] at ended
    cases ended
  · cases located.symm.trans missing
  · rw [counted, conclude, told] at ended
    cases ended
  · rw [counted] at ended
    cases ended

/-- Every name of a module can stand in a configuration, and every configuration has one; it gives a grammar or a fault
that is told, unless it starts with a dot or a module of it raises what nothing takes up; and for exactly the faults
that are told a run ends with the status for grammars. -/
theorem grammar_answers {name : String} (isModuleName : IsModuleName name) (modules : List GrammarModule) :
    Grammar.Answered modules name ∧
    (∀ root, ∃ entries configuration, ofEntries root entries = .ok configuration ∧ configuration.grammar = name) ∧
    (∀ (around : Surroundings) (path : Path) (required : Bool) (configuration : Configuration),
      around.configuration path required = .ok configuration → IsModuleName configuration.grammar) ∧
    ∀ (session : Session) (around : Surroundings) (disturbance : Option Disturbance) (stamp : String)
      (words : List String) (arguments : CommandLine.Arguments) (log : Log) (target : Target)
      (configuration : Configuration), CommandLine.read words = .ok (.run arguments) →
      Log.configure ⟨arguments.verbose, arguments.noWarn, arguments.logFile⟩ session.around = (log, around, none) →
      around.resolveTarget arguments.path = .ok target → around.configurationFor arguments = .ok configuration →
      configuration.grammar = name → disturbance ≠ some .interruption →
      (∀ fault, Grammar.locate modules name = .error fault →
        (session.run modules disturbance stamp words).2.ending =
          if fault.isReported then .exit .grammarNotFound else .crash (.census (.grammar fault))) ∧
      ((session.run modules disturbance stamp words).2.ending = .exit .grammarNotFound ↔
        ¬ Grammar.IsRelative name ∧ (∀ version, ¬ Grammar.Works modules name version) ∧
          ∀ reason, ¬ Grammar.Breaks modules name reason) := by
  have answered : Grammar.Answered modules name := Grammar.answered isModuleName.1
  refine ⟨answered, fun root => ⟨_, exists_grammar root isModuleName⟩, ?_, ?_⟩
  · intro around path required configuration accepted
    obtain ⟨root, entries, made⟩ := Surroundings.exists_entries accepted
    exact isModuleName_grammar made
  · rintro session around disturbance stamp words arguments log target configuration reads set resolves configured rfl
      uninterrupted
    rw [ending_of_set reads set, perform_of_configured resolves configured, ← answered.told]
    have unlocated (fault : GrammarFault) (failed : Grammar.locate modules configuration.grammar = .error fault) :=
      ending_of_unlocated around arguments target uninterrupted failed (!(arguments.noWarn || configuration.noWarn))
    refine ⟨unlocated, ?_, ?_⟩
    · intro ended
      cases located : Grammar.locate modules configuration.grammar with
      | ok grammar => exact absurd ended (ending_of_located located _)
      | error fault =>
        rw [unlocated fault located] at ended
        refine ⟨fault, rfl, ?_⟩
        by_contra silent
        rw [if_neg silent] at ended
        cases ended
    · rintro ⟨fault, failed, reported⟩
      rw [unlocated fault failed, if_pos reported]

/-- A name that starts with a dot breaks the run, and one that is not installed ends it with the status for that. -/
theorem grammar_answers_sample :
    ∃ told broken : Surroundings,
      Grammar.locate [Grammar.bundled] ".rel" = .error (.relative ".rel") ∧
      ((start told).run [Grammar.bundled] none "" ["a.csproj"]).2.ending = .exit .grammarNotFound ∧
      ((start broken).run [Grammar.bundled] none "" ["a.csproj"]).2.ending =
        .crash (.census (.grammar (.relative ".rel"))) := by
  let told := configuredSample (Text.Utf8.ofString "grammar: rel")
  let broken := configuredSample (Text.Utf8.ofString "grammar: .rel")
  let arguments : CommandLine.Arguments := ⟨"a.csproj", none, false, none, none, false, none⟩
  let target : Target := ⟨"a.csproj", ⟨.root, ["r", "a.csproj"]⟩, .file⟩
  let named (name : String) : Configuration := { standard ⟨.root, ["r"]⟩ with grammar := name }
  have reads : CommandLine.read ["a.csproj"] = .ok (.run arguments) := by decide +kernel
  have missing : Grammar.locate [Grammar.bundled] "rel" = .error (.missing "rel" "rel") := by decide +kernel
  have relative : Grammar.locate [Grammar.bundled] ".rel" = .error (.relative ".rel") := by decide +kernel
  have set (around : Surroundings) : Log.configure ⟨arguments.verbose, arguments.noWarn, arguments.logFile⟩ around =
    (_, around, none) := Log.configure_of_no_file rfl
  have isModuleName : IsModuleName "rel" ∧ IsModuleName ".rel" := by
    refine ⟨⟨by decide, ?_⟩, ⟨by decide, ?_⟩⟩ <;> decide +kernel
  have answers := (grammar_answers isModuleName.1 [Grammar.bundled]).2.2.2
  have breaks := (grammar_answers isModuleName.2 [Grammar.bundled]).2.2.2
  refine ⟨told, broken, relative, ?_, ?_⟩
  · exact (answers (start told) told none "" _ arguments _ target (named "rel") reads (set told) (by decide +kernel)
      (by decide +kernel) rfl nofun).1 _ missing
  · exact (breaks (start broken) broken none "" _ arguments _ target (named ".rel") reads (set broken)
      (by decide +kernel) (by decide +kernel) rfl nofun).1 _ relative

end Session
end UsingCensus
