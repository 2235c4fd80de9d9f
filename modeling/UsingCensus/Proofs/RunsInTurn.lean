import UsingCensus.Proofs.Logbooks
import UsingCensus.Proofs.Looks
import UsingCensus.Proofs.ToldRecords

/-!
Runs one after the other. Main statement: as long as the log files lie outside what the runs look at, each run ends as
it would on its own, and writes the same in its own log file and nothing else; and as long as what it imports writes
nothing, it writes the same results.
-/
namespace UsingCensus

namespace FileTree

theorem mem_keys_insert (tree : FileTree) {place : Location} (below : place ≠ []) (entry : Entry) :
    [] ∈ (tree.insert place entry).entries.map Prod.fst ↔ [] ∈ tree.entries.map Prod.fst := by
  unfold insert
  split
  · have keys : (tree.entries.map fun old => if old.1 = place then (place, entry) else old).map Prod.fst =
        tree.entries.map Prod.fst := by
      rw [List.map_map]
      refine List.map_congr_left fun old _ => ?_
      by_cases same : old.1 = place <;> simp [same]
    dsimp only
    rw [keys]
  · simp [Ne.symm below]

/-- Bytes are written at the end of a file, made if it was missing, and all else is left as it was. -/
def Appends (place : Option Location) (bytes : List UInt8) (before after : FileTree) : Prop :=
  ∀ location, after.entry? location =
    if place = some location then some (.file (before.bytesAt location ++ bytes)) else before.entry? location

theorem appends_nothing (tree : FileTree) : Appends none [] tree tree := fun _ => rfl

theorem bytesAt_of_entry? {tree : FileTree} {location : Location} {bytes : List UInt8}
    (file : tree.entry? location = some (.file bytes)) : tree.bytesAt location = bytes := by
  unfold bytesAt
  rw [file]

theorem Appends.trans {place : Option Location} {first second : List UInt8} {before middle after : FileTree}
    (one : Appends place first before middle) (two : Appends place second middle after) :
    Appends place (first ++ second) before after := by
  intro location
  rw [two location]
  by_cases here : place = some location
  · have written := one location
    rw [if_pos here] at written
    rw [if_pos here, if_pos here, bytesAt_of_entry? written, List.append_assoc]
  · rw [if_neg here, if_neg here, one location, if_neg here]

end FileTree

namespace Surroundings

open FileTree

/-! ### Log files -/

/-- The same place in a file tree that has grown below its root. -/
structure Grows (grown : Location → Prop) (around other : Surroundings) : Prop extends Grown grown around other where
  root : [] ∈ other.tree.entries.map Prod.fst ↔ [] ∈ around.tree.entries.map Prod.fst

namespace Grows

variable {grown more : Location → Prop} {around other last : Surroundings} {text : String} {location : Location}

theorem size (grows : Grows grown around other) : around.tree.entries.length ≤ other.tree.entries.length :=
  grows.tree.length_entries_le grows.root.mpr

theorem refl (around : Surroundings) : Grows (fun _ => False) around around :=
  ⟨⟨FileTree.Grown.refl fun _ none => none.elim, rfl, rfl⟩, Iff.rfl⟩

/-- What has grown at fewer places has yet to grow at the others. -/
theorem between (early : Grows grown around other) (whole : Grows more around last)
    (within : ∀ location, grown location → more location) : Grows more other last where
  tree := {
    same := fun location elsewhere => by
      rw [whole.tree.same location elsewhere, early.tree.same location (mt (within location) elsewhere)]
    before := fun location there => by
      by_cases grew : grown location
      · exact .inr (early.tree.after location grew)
      · rw [early.tree.same location grew]
        exact whole.tree.before location there
    after := whole.tree.after }
  directory := whole.directory.trans early.directory.symm
  home := whole.home.trans early.home.symm
  root := whole.root.trans early.root.symm

theorem appends (grows : Grows grown around other) {place : Option Location} {bytes : List UInt8}
    {now : Surroundings} (written : Appends place bytes other.tree now.tree)
    (free : ∀ location, place = some location →
      other.tree.entry? location = none ∨ ∃ old, other.tree.entry? location = some (.file old))
    (root : [] ∈ now.tree.entries.map Prod.fst ↔ [] ∈ other.tree.entries.map Prod.fst)
    (directory : now.directory = other.directory) (home : now.home = other.home) :
    Grows (fun location => grown location ∨ place = some location) around now where
  tree := {
    same := fun location elsewhere => by
      obtain ⟨notGrown, notWritten⟩ := not_or.mp elsewhere
      rw [written location, if_neg notWritten, grows.tree.same location notGrown]
    before := fun location there => by
      by_cases grew : grown location
      · exact grows.tree.before location grew
      · rw [← grows.tree.same location grew]
        exact free location (there.resolve_left grew)
    after := fun location there => by
      rw [written location]
      by_cases here : place = some location
      · exact ⟨_, if_pos here⟩
      · rw [if_neg here]
        exact grows.tree.after location (there.resolve_right here) }
  directory := directory.trans grows.directory
  home := home.trans grows.home
  root := root.trans grows.root

end Grows

theorem root_of_openForAppending {around opened : Surroundings} {text : String} {location : Location}
    (opens : around.openForAppending text = .ok (location, opened)) :
    [] ∈ opened.tree.entries.map Prod.fst ↔ [] ∈ around.tree.entries.map Prod.fst := by
  unfold openForAppending at opens
  split at opens
  · cases opens
  split at opens
  · cases opens
  split at opens
  · cases opens
  · cases opens
    exact Iff.rfl
  · rename_i missing
    cases opens
    exact mem_keys_insert _ (ne_nil_of_not_directory around.tree (by rw [missing]; simp)) _

namespace Opens

variable {around opened : Surroundings} {text : String} {location : Location}

theorem free (opens : Opens around text location opened) :
    around.tree.entry? location = none ∨ ∃ old, around.tree.entry? location = some (.file old) :=
  opens.grown.tree.before location rfl

theorem appends (opens : Opens around text location opened) :
    Appends (some location) [] around.tree opened.tree := by
  intro place
  by_cases here : place = location
  · rw [here, if_pos rfl, List.append_nil, opens.bytes]
  · rw [if_neg fun same => here (Option.some.inj same).symm, opens.grown.tree.same place here]

end Opens

theorem Grows.openForAppending {grown : Location → Prop} {around other opened : Surroundings} {text : String}
    {location : Location} (grows : Grows grown around other) (settled : around.Settled)
    (opens : around.openForAppending text = .ok (location, opened)) :
    ∃ now, other.openForAppending text = .ok (location, now) := by
  have open_ := opens_of_openForAppending settled opens
  have free : other.tree.entry? location = none ∨ ∃ old, other.tree.entry? location = some (.file old) := by
    by_cases grew : grown location
    · exact .inr (grows.tree.after location grew)
    · rw [grows.tree.same location grew]
      exact open_.free
  unfold Surroundings.openForAppending at opens ⊢
  split at opens
  · cases opens
  · rename_i plain
    rw [if_neg plain, grows.seek_of_seek open_.leads]
    rcases free with missing | ⟨old, file⟩
    · exact ⟨{ other with tree := other.tree.insert location (.file []) }, by simp only [missing]⟩
    · exact ⟨other, by simp only [file]⟩

/-- The place of a log file, if there is one that can be opened. -/
def logPlace? (around : Surroundings) (file : Option Path) : Option Location :=
  file.bind fun path =>
    (around.openForAppending (around.absolute path).normal.toString).toOption.map Prod.fst

def Openable (around : Surroundings) (file : Option Path) : Prop := (around.logPlace? file).isSome = file.isSome

instance (around : Surroundings) (file : Option Path) : Decidable (around.Openable file) := by
  unfold Openable
  infer_instance

def logPlaces (around : Surroundings) (files : List (Option Path)) : List Location := files.filterMap around.logPlace?

/-- A log that is set up by options, with its file at a place. -/
structure SetUp (options : LogOptions) (place : Option Location) (log : Log) : Prop where
  level : log.level = options.level
  handlers : log.handlers =
    .stream options.streamLevel :: (place.map (LogHandler.file options.fileLevel)).toList
  placed : place.isSome = options.file.isSome

variable {grown : Location → Prop} {logs : List Location} {around other full : Surroundings}

/-- Setting a log up comes to the same wherever it is done, and makes nothing but a log file that is missing. -/
theorem exists_setUp (settled : around.Settled) (options : LogOptions) (openable : around.Openable options.file) :
    ∃ log, SetUp options (around.logPlace? options.file) log ∧
      ∀ grown other, Grows grown around other → ∃ opened,
        Log.configure options other = (log, opened, none) ∧
        Appends (around.logPlace? options.file) [] other.tree opened.tree ∧
        Grows (fun location => grown location ∨ around.logPlace? options.file = some location) around opened := by
  cases named : options.file with
  | none =>
    refine ⟨Log.streaming options, ⟨rfl, rfl, by rw [named]; rfl⟩, fun grown other grows =>
      ⟨other, Log.configure_of_no_file named, appends_nothing _, ?_⟩⟩
    exact grows.appends (appends_nothing _) (fun _ none => by cases none) Iff.rfl rfl rfl
  | some path =>
    rw [named] at openable
    obtain ⟨_, place⟩ := Option.isSome_iff_exists.mp openable
    obtain ⟨⟨location, first⟩, opens, rfl⟩ := Option.map_eq_some_iff.mp (show Option.map _ _ = _ from place)
    replace opens := eq_ok_of_toOption opens
    rw [place]
    refine ⟨{ Log.streaming options with
      handlers := (Log.streaming options).handlers ++ [.file options.fileLevel location] },
      ⟨rfl, rfl, by rw [named]; rfl⟩, fun grown other grows => ?_⟩
    obtain ⟨opened, also⟩ := grows.openForAppending settled opens
    have there := opens_of_openForAppending (grows.settled settled) also
    refine ⟨opened, ?_, there.appends, ?_⟩
    · unfold Log.configure
      rw [named]
      dsimp only
      rw [grows.absolute_eq, also]
    · refine grows.appends there.appends (fun place same => ?_) (root_of_openForAppending also)
        there.grown.directory there.grown.home
      cases same
      exact there.free

def opened (around : Surroundings) (file : Option Path) : Surroundings :=
  (Log.configure ⟨false, false, file⟩ around).2.1

def withLogs (around : Surroundings) (files : List (Option Path)) : Surroundings := files.foldl opened around

theorem grows_foldl_opened (settled : around.Settled) {files : List (Option Path)}
    (openable : ∀ file ∈ files, around.Openable file) (grows : Grows grown around other) :
    Grows (fun location => grown location ∨ location ∈ around.logPlaces files) around (files.foldl opened other) := by
  induction files generalizing grown other with
  | nil => simpa [logPlaces] using grows
  | cons file rest ih =>
    obtain ⟨here, later⟩ := List.forall_mem_cons.mp openable
    obtain ⟨log, _, sets⟩ := exists_setUp settled ⟨false, false, file⟩ here
    obtain ⟨next, set, _, grew⟩ := sets grown other grows
    have first : other.opened file = next := by
      unfold opened
      rw [set]
    rw [List.foldl_cons, first]
    have all := ih later grew
    have same (location : Location) : location ∈ around.logPlaces (file :: rest) ↔
        around.logPlace? file = some location ∨ location ∈ around.logPlaces rest := by
      simp [logPlaces, List.mem_filterMap]
    simpa only [same, or_assoc] using all

/-- The place that a path asked for leads to. -/
def lookPlace? (around : Surroundings) : Look → Option Location
  | .path text => (around.seek true text).toOption
  | _ => none

/-- Opening log files leaves the answer to a question as it is, and no path that is asked for leads to one. -/
def Spares (logs : List Location) (around full : Surroundings) (look : Look) : Prop :=
  around.Shows full look ∧ ∀ location ∈ logs, around.lookPlace? look ≠ some location

instance (logs : List Location) (around full : Surroundings) (look : Look) :
    Decidable (Spares logs around full look) :=
  inferInstanceAs (Decidable (_ ∧ _))

/-- The answer is the same when only some log files are opened, and whatever they hold. -/
theorem shows_of_spares {look : Look} (spares : Spares logs around full look)
    (early : Grows grown around other) (late : Grows (· ∈ logs) other full)
    (within : ∀ location, grown location → location ∈ logs) : around.Shows other look := by
  obtain ⟨same, avoids⟩ := spares
  cases look with
  | path text =>
    change full.find true text = around.find true text at same
    change other.find true text = around.find true text
    unfold find at same ⊢
    by_cases null : text.toList.contains '\x00' = true
    · rw [if_pos null, if_pos null]
    rw [if_neg null, if_neg null] at same ⊢
    rcases early.seek_cases true text with kept | ⟨nowhere, blocked⟩
    · rw [kept]
      cases leads : around.seek true text with
      | error cause => rfl
      | ok location =>
        have there : around.lookPlace? (.path text) = some location := congrArg Except.toOption leads
        simp only [early.tree.same location fun grew => avoids location (within location grew) there]
    -- where a log file has come to block the way, it still does so in the end
    · rcases late.seek_cases true text with kept | ⟨other, _⟩
      · rw [kept, blocked, nowhere] at same
        cases same
      · cases blocked.symm.trans other
  -- listings only grow, so one that is the same once all log files are open is the same in between
  | descriptor directory => exact Grown.firstDescriptor?_between early.toGrown late.toGrown early.size late.size same
  | sources directory =>
    have wide := late.defaultItems_sublist late.size directory
    rw [show full.defaultItems directory = around.defaultItems directory from same] at wide
    exact wide.antisymm (early.defaultItems_sublist early.size directory)
  | items directory list =>
    have wide := late.itemPaths_sublist directory list
    rw [show full.itemPaths directory list = around.itemPaths directory list from same] at wide
    exact wide.antisymm (early.itemPaths_sublist directory list)

end Surroundings

/-! ### Writing -/

namespace Log

end Log

def LogOptions.written (options : LogOptions) (stamp : String) (records : List LogRecord) : List UInt8 :=
  (records.filter fun record => record.level.reaches options.fileLevel).flatMap fun record =>
    Text.Utf8.ofString (record.fileLine stamp)

namespace Surroundings.SetUp

open FileTree

variable {options : LogOptions} {place : Option Location} {log : Log} {tree : FileTree}

end Surroundings.SetUp

namespace Session

open Surroundings

variable {around : Surroundings} {modules : List GrammarModule} {disturbance : Option Disturbance}
  {stamp : String} {lines : List (List String)}

def logFile? (words : List String) : Option Path :=
  match CommandLine.read words with
  | .ok (.run arguments) => arguments.logFile
  | _ => none

def lookedAt (around : Surroundings) (modules : List GrammarModule) (words : List String) : List Look :=
  match CommandLine.read words with
  | .ok (.run arguments) => looks around modules arguments
  | _ => []

/-- All log files can be opened, and none lies in the way of what a run looks at. -/
structure Apart (around : Surroundings) (modules : List GrammarModule) (lines : List (List String)) : Prop where
  openable : ∀ words ∈ lines, around.Openable (logFile? words)
  spared : ∀ words ∈ lines, ∀ look ∈ lookedAt around modules words,
    Spares (around.logPlaces (lines.map logFile?)) around (around.withLogs (lines.map logFile?)) look

def logOptions (arguments : CommandLine.Arguments) : LogOptions :=
  ⟨arguments.verbose, arguments.noWarn, arguments.logFile⟩

/-- What the loggers are told in a run: the log is set up, then come the records. -/
def steps (around : Surroundings) (modules : List GrammarModule) (disturbance : Option Disturbance) (stamp : String)
    (arguments : CommandLine.Arguments) : List LogStep :=
  .configure (logOptions arguments) ::
    (perform around modules disturbance arguments).1.map (LogRecord.step stamp)

def Within (grown : Location → Prop) (around : Surroundings) (lines : List (List String)) : Prop :=
  ∀ location, grown location → location ∈ around.logPlaces (lines.map logFile?)

theorem Within.or {grown : Location → Prop} {words : List String} (within : Within grown around lines)
    (member : words ∈ lines) :
    Within (fun location => grown location ∨ around.logPlace? (logFile? words) = some location) around lines :=
  fun location there => there.elim (within location) fun own =>
    List.mem_filterMap.mpr ⟨_, List.mem_map_of_mem member, own⟩

theorem Apart.grows_withLogs (apart : Apart around modules lines) (settled : around.Settled) :
    Grows (· ∈ around.logPlaces (lines.map logFile?)) around (around.withLogs (lines.map logFile?)) := by
  have openable : ∀ file ∈ lines.map logFile?, around.Openable file := by
    intro file listed
    obtain ⟨line, given, rfl⟩ := List.mem_map.mp listed
    exact apart.openable line given
  have grows := grows_foldl_opened settled openable (Grows.refl around)
  simp only [false_or] at grows
  exact grows

/-- With given arguments, the log is set up the same way, and then all that is looked at is as it was, whatever runs
came before. -/
theorem exists_opened (settled : around.Settled) (apart : Apart around modules lines) {words : List String}
    (member : words ∈ lines) {arguments : CommandLine.Arguments}
    (reads : CommandLine.read words = .ok (.run arguments)) :
    ∃ log, SetUp (logOptions arguments) (around.logPlace? (logFile? words)) log ∧
      ∀ (before : Surroundings) (grown : Location → Prop), Grows grown around before →
        Within grown around lines → ∃ opened,
        Log.configure (logOptions arguments) before = (log, opened, none) ∧
        FileTree.Appends (around.logPlace? (logFile? words)) [] before.tree opened.tree ∧
        Grows (fun location => grown location ∨ around.logPlace? (logFile? words) = some location) around opened ∧
        ∀ look ∈ looks around modules arguments, around.Shows opened look := by
  have file : logFile? words = (logOptions arguments).file := by
    unfold logFile?
    rw [reads]
    rfl
  obtain ⟨log, setUp, sets⟩ := exists_setUp settled (logOptions arguments) (file ▸ apart.openable words member)
  rw [file]
  refine ⟨log, setUp, fun before grown grows within => ?_⟩
  obtain ⟨opened, set, made, grew⟩ := sets grown before grows
  have inside := within.or member
  rw [file] at inside
  exact ⟨opened, set, made, grew, fun look listed =>
    shows_of_spares (apart.spared words member look (by unfold lookedAt; rw [reads]; exact listed)) grew
      (grew.between (apart.grows_withLogs settled) inside) inside⟩

/-- A run looks for the same grammar, whatever runs came before. -/
theorem sought?_eq (settled : around.Settled) (apart : Apart around modules lines) {words : List String}
    (member : words ∈ lines) {session : Session} {grown : Location → Prop}
    (grows : Grows grown around session.around) (within : Within grown around lines) :
    session.sought? disturbance words = (start around).sought? disturbance words := by
  unfold sought?
  cases reads : CommandLine.read words with
  | error fault => rfl
  | ok request =>
    cases request with
    | help => rfl
    | run arguments =>
      obtain ⟨log, -, opens⟩ := exists_opened settled apart member reads
      obtain ⟨opened, set, -, grew, shows⟩ := opens session.around grown grows within
      obtain ⟨alone, begun, -, grown, shown⟩ :=
        opens around (fun _ => False) (Grows.refl around) fun _ none => none.elim
      unfold logOptions at set begun
      dsimp only [start]
      rw [set, begun]
      exact (grammarSought?_eq grew.toGrown shows).trans (grammarSought?_eq grown.toGrown shown).symm

end Session

namespace Grammar

variable {modules : List GrammarModule} {imported later : List String}

/-- Only what can be imported stays imported. -/
def Kept (modules : List GrammarModule) (imported : List String) : Prop :=
  ∀ name ∈ imported, ∃ found, module? modules name = some found ∧ found.mishap = none

theorem Kept.cons {name : String} {found : GrammarModule} (kept : Kept modules imported)
    (installed : module? modules name = some found) (works : found.mishap = none) : Kept modules (name :: imported) :=
  List.forall_mem_cons.mpr ⟨⟨found, installed, works⟩, kept⟩

theorem Kept.importAll (kept : Kept modules imported) (names : List String) :
    Kept modules (Grammar.importAll modules imported names).imported := by
  induction names generalizing imported with
  | nil => exact kept
  | cons name rest ih =>
    rw [Grammar.importAll]
    split
    · exact ih kept
    · cases installed : module? modules name with
      | none => exact kept
      | some found =>
        cases works : found.mishap with
        | none => simpa [works] using ih (kept.cons installed works)
        | some mishap => simpa [works] using kept

/-- The more has been imported, the less is written. -/
theorem Kept.text_importAll (kept : Kept modules later) (fewer : imported ⊆ later) {names : List String}
    (quiet : (Grammar.importAll modules imported names).text = "") :
    (Grammar.importAll modules later names).text = "" := by
  induction names generalizing imported later with
  | nil => rfl
  | cons name rest ih =>
    rw [Grammar.importAll] at quiet ⊢
    by_cases old : name ∈ imported
    · rw [if_pos old] at quiet
      rw [if_pos (fewer old)]
      exact ih kept fewer quiet
    · rw [if_neg old] at quiet
      cases installed : module? modules name with
      | none =>
        split
        · rename_i known
          obtain ⟨found, impossible, -⟩ := kept name known
          cases installed.symm.trans impossible
        · rfl
      | some found =>
        rw [installed] at quiet
        cases works : found.mishap with
        | some mishap =>
          split
          · rename_i known
            obtain ⟨other, again, well⟩ := kept name known
            cases installed.symm.trans again
            cases works.symm.trans well
          · simpa [works] using quiet
        | none =>
          simp only [works, Option.isSome_none, Bool.false_eq_true, if_false] at quiet ⊢
          obtain ⟨greets, others⟩ := String.append_eq_empty_iff.mp quiet
          split
          · rename_i known
            exact ih kept (List.cons_subset.mpr ⟨known, fewer⟩) others
          · dsimp only
            rw [greets, ih (kept.cons installed works) (List.cons_subset_cons name fewer) others]
            rfl

theorem Kept.importing (kept : Kept modules imported) (name : String) :
    Kept modules (Grammar.importing modules imported name).imported := by
  unfold Grammar.importing
  split
  · exact kept
  · exact kept.importAll _

theorem Kept.text_importing (kept : Kept modules imported) {name : String}
    (quiet : (Grammar.importing modules [] name).text = "") : (Grammar.importing modules imported name).text = "" := by
  unfold Grammar.importing at quiet ⊢
  split
  · rfl
  · rename_i plain
    rw [if_neg plain] at quiet
    exact kept.text_importAll (List.nil_subset _) quiet

end Grammar

namespace Host

open Session Surroundings

variable {around : Surroundings} {modules : List GrammarModule} {disturbance : Option Disturbance} {stamp : String}
  {lines : List (List String)} {grown : Location → Prop}

/-- What a run imports when it is the only one writes nothing. -/
def Quiet (around : Surroundings) (modules : List GrammarModule) (disturbance : Option Disturbance)
    (words : List String) : Prop :=
  ((start around).importing modules disturbance words).text = ""

/-- What a run imports after others writes nothing either. -/
theorem Quiet.later (settled : around.Settled) (apart : Apart around modules lines) {words : List String}
    (member : words ∈ lines) {host : Host} (kept : Grammar.Kept modules host.imported)
    (grows : Grows grown around host.session.around) (within : Within grown around lines)
    (quiet : Quiet around modules disturbance words) : (host.importing modules disturbance words).text = "" := by
  have same : host.session.sought? disturbance words = (start around).session.sought? disturbance words :=
    sought?_eq settled apart member grows within
  unfold Quiet importing at quiet
  unfold importing
  rw [same]
  cases sought : (start around).session.sought? disturbance words with
  | none => rfl
  | some name =>
    rw [sought] at quiet
    exact kept.text_importing quiet

end Host
end UsingCensus
