import UsingCensus.Logbook
import UsingCensus.Proofs.Growing

/-!
What logbooks keep. Main statement: after any steps, a record is told as the latest set-up says, once at each
place, as long as its logger belongs to the program's own; every logger does whose part starts with no dot.
-/
namespace UsingCensus

/-! ### Loggers that belong -/

/-- A logger comes up to the program's own unless a dot follows that one's name. -/
theorem comesUp_append {asked : List String} (known : programLogger ∈ asked) (behind : List Char)
    (plain : behind.getLast? ≠ some '.') :
    comesUp asked (behind ++ '.' :: programLogger.toList.reverse) = true := by
  have home : comesUp asked ('.' :: programLogger.toList.reverse) = true := by
    have spelled : programLogger.toList.reverse = 's' :: "usingstat".toList.reverse := by decide
    have named : String.ofList ('s' :: "usingstat".toList.reverse).reverse = programLogger := by decide
    rw [spelled, comesUp]
    simp only [named, if_pos known, decide_true, Bool.true_or]
  match behind with
  | [] => exact home
  | [c] =>
    have other : c ≠ '.' := fun same => plain (by rw [same]; rfl)
    rw [List.singleton_append, comesUp]
    · exact home
    · rintro d rest rfl
      exact fun _ => other rfl
  | c :: d :: more =>
    have below : (d :: more).getLast? ≠ some '.' := by rwa [List.getLast?_cons_cons] at plain
    have one := comesUp_append known (d :: more) below
    by_cases dot : c = '.'
    · subst dot
      rw [List.cons_append, List.cons_append, comesUp]
      split
      · rw [← List.cons_append, one, Bool.or_true]
      · match shape : more with
        | [] => exact home
        | e :: rest =>
          exact comesUp_append known (e :: rest) (by rwa [List.getLast?_cons_cons] at below)
    · rw [List.cons_append, comesUp]
      · exact one
      · exact fun _ _ same _ => dot same
termination_by behind.length
decreasing_by all_goals simp_all

/-- The loggers of parts that start with no dot belong to the program's own, whatever else was asked for. -/
theorem belongs_of_plain {asked : List String} (known : programLogger ∈ asked) {part : String}
    (plain : Text.startsIn part "." = false) : belongs asked (loggerName part) = true := by
  unfold belongs loggerName
  split
  · exact Bool.or_eq_true_iff.mpr (.inl (by decide))
  · have spelled : ("usingstats." ++ part).toList.reverse =
        part.toList.reverse ++ '.' :: programLogger.toList.reverse := by
      have dotted : "usingstats.".toList.reverse = '.' :: programLogger.toList.reverse := by decide
      rw [String.toList_append, List.reverse_append, dotted]
    rw [spelled, comesUp_append known, Bool.or_true]
    rw [List.getLast?_reverse]
    intro dot
    cases letters : part.toList with
    | nil =>
      rw [letters] at dot
      cases dot
    | cons c rest =>
      rw [letters] at dot
      have first : c = '.' := Option.some.inj dot
      simp [Text.startsIn, letters, first] at plain

namespace LogOptions

variable {options : LogOptions} {level : LogLevel}

theorem reaches_of_streamLevel (options : LogOptions) (reaches : level.reaches options.streamLevel = true) :
    level.reaches options.level = true := by
  have bound : options.level.weight ≤ options.streamLevel.weight := by
    obtain ⟨verbose, quiet, file⟩ := options
    cases verbose <;> cases quiet <;> cases file <;>
      simp [LogOptions.level, streamLevel, fileLevel, LogLevel.debug, LogLevel.info, LogLevel.warning]
  exact decide_eq_true (Int.le_trans bound (of_decide_eq_true reaches))

theorem reaches_of_fileLevel (written : options.file.isSome = true)
    (reaches : level.reaches options.fileLevel = true) : level.reaches options.level = true := by
  unfold LogOptions.level
  rwa [if_pos written]

end LogOptions

namespace Log

theorem entry?_store {log : Log} {options : LogOptions} {place : Option Location} {stamp : String} {tree : FileTree}
    (level : log.level = options.level)
    (handlers : log.handlers =
      .stream options.streamLevel :: (place.map (LogHandler.file options.fileLevel)).toList)
    (file : ∀ location, place = some location →
      options.file.isSome = true ∧ ∃ bytes, tree.entry? location = some (.file bytes))
    (record : LogRecord) (location : Location) :
    FileTree.entry? (log.store stamp tree record) location =
      if place = some location ∧ record.level.reaches options.fileLevel = true then
        some (.file (tree.bytesAt location ++ Text.Utf8.ofString (record.fileLine stamp)))
      else tree.entry? location := by
  unfold store
  rw [level]
  cases place with
  | none => cases record.level.reaches options.level <;> simp [handlers, LogHandler.store]
  | some there =>
    obtain ⟨written, bytes, found⟩ := file there rfl
    cases low : record.level.reaches options.level with
    | false =>
      have unwritten : ¬ record.level.reaches options.fileLevel = true := fun reaches => by
        rw [LogOptions.reaches_of_fileLevel written reaches] at low
        cases low
      rw [if_pos Bool.not_false, if_neg fun both : _ ∧ _ => unwritten both.2]
    | true =>
      rw [handlers]
      simp only [Option.map_some, Option.toList_some, List.foldl_cons, List.foldl_nil, LogHandler.store,
        Bool.not_true, Bool.false_eq_true, if_false, Option.some.injEq]
      cases record.level.reaches options.fileLevel with
      | false => simp
      | true =>
        rw [if_pos rfl, FileTree.entry?_append _ found]
        by_cases here : location = there
        · subst here
          simp [FileTree.bytesAt, found]
        · rw [if_neg here, if_neg fun both => here both.1.symm]

end Log

namespace Logging

open FileTree

/-- The options of the last set-up. -/
def latest? : List LogStep → Option LogOptions
  | [] => none
  | .configure options :: rest => (latest? rest).or (some options)
  | .tell _ _ _ _ :: rest => latest? rest

/-- A log that is set up by some options, its file at the given place. -/
structure Keeps (options : LogOptions) (place : Option Location) (logging : Logging) : Prop where
  level : logging.book.log.level = options.level
  propagates : logging.book.log.propagates = false
  /-- There is one handler for the stream, and one for the file if there is a file. -/
  handlers : logging.book.log.handlers =
    .stream options.streamLevel :: (place.map (LogHandler.file options.fileLevel)).toList
  placed : place.isSome = options.file.isSome
  /-- The path of the file still leads to the place, and there is the file. -/
  file : ∀ path ∈ options.file, ∀ location ∈ place,
    logging.around.seek true (logging.around.absolute path).normal.toString = .ok location ∧
      ∃ bytes, logging.around.tree.entry? location = some (.file bytes)
  settled : logging.around.Settled
  known : programLogger ∈ logging.book.asked
  /-- What was refused of such loggers, the log does not let through. -/
  refused : ∀ part level, Text.startsIn part "." = false → (loggerName part, level) ∈ logging.book.refused →
    level.reaches options.level = false

/-- A record is told once on the stream if it reaches its level, and once in the file, if there is one, if it
reaches that one's. Nothing else is written. -/
structure Tells (options : LogOptions) (place : Option Location) (stamp : String) (record : LogRecord)
    (before after : FileTree) (text : String) : Prop where
  text : text = if record.level.reaches options.streamLevel then record.streamLine else ""
  files : ∀ location, after.entry? location =
    if place = some location ∧ record.level.reaches options.fileLevel = true then
      some (.file (before.bytesAt location ++ Text.Utf8.ofString (record.fileLine stamp)))
    else before.entry? location

/-- What becomes of a record that a part tells. -/
structure Answers (options : LogOptions) (place : Option Location) (logging : Logging) (stamp part : String)
    (level : LogLevel) (message : String) : Prop where
  told : Text.startsIn part "." = false ∨
      (belongs (loggerName part :: logging.book.asked) (loggerName part) = true ∧
        (loggerName part, level) ∉ logging.book.refused) →
    Tells options place stamp (.of part level message) logging.around.tree
      (logging.tell stamp part level message).1.around.tree (logging.tell stamp part level message).2
  /-- The loggers of other parts tell warnings and worse as they are, and never in a file. -/
  strange : belongs (loggerName part :: logging.book.asked) (loggerName part) = false →
    (logging.tell stamp part level message).1.around = logging.around ∧
      (logging.tell stamp part level message).2 =
        if level.reaches .warning && (loggerName part, level) ∉ logging.book.refused then message ++ "\n" else ""

variable {options : LogOptions} {place : Option Location} {logging : Logging} {around : Surroundings}
  {stamp part message : String} {level : LogLevel} {record : LogRecord}

/-! ### One record -/

theorem tell_of_refused
    (refuses : (logging.book.ask (loggerName part)).refuses (.of part level message) = true) :
    logging.tell stamp part level message =
      (⟨{ logging.book.ask (loggerName part) with
          refused := (loggerName part, level) :: logging.book.refused }, logging.around⟩, "") := by
  unfold tell Logbook.tell
  dsimp only [LogRecord.of] at refuses ⊢
  rw [if_pos refuses]
  rfl

theorem tell_of_passed {log : Log}
    (passes : (logging.book.ask (loggerName part)).refuses (.of part level message) = false)
    (comes : (logging.book.ask (loggerName part)).logOf (loggerName part) = log) :
    logging.tell stamp part level message =
      (⟨logging.book.ask (loggerName part),
          { logging.around with tree := log.store stamp logging.around.tree (.of part level message) }⟩,
        log.streamText (.of part level message)) := by
  unfold tell Logbook.tell
  dsimp only [LogRecord.of] at passes ⊢
  rw [passes, comes]
  rfl

theorem refuses_iff {log : Log} (level : LogLevel) (message : String)
    (comes : (logging.book.ask (loggerName part)).logOf (loggerName part) = log) :
    (logging.book.ask (loggerName part)).refuses (.of part level message) = true ↔
      (loggerName part, level) ∈ logging.book.refused ∨ level.reaches log.level = false := by
  unfold Logbook.refuses LogRecord.of
  dsimp only
  rw [comes, Bool.or_eq_true, decide_eq_true_iff, Bool.not_eq_true']
  rfl

theorem store_initial (stamp : String) (tree : FileTree) (record : LogRecord) :
    Log.initial.store stamp tree record = tree := by
  unfold Log.store
  split <;> rfl

/-- A logger's records come to the program's log or to that before any set-up. -/
theorem logOf_cases (book : Logbook) (logger : String) :
    (belongs book.asked logger = true ∧ book.logOf logger = book.log) ∨
      (belongs book.asked logger = false ∧ book.logOf logger = Log.initial) := by
  unfold Logbook.logOf
  cases belongs book.asked logger with
  | true => exact .inl ⟨rfl, rfl⟩
  | false => exact .inr ⟨rfl, rfl⟩

namespace Keeps

theorem streamText_eq (keeps : Keeps options place logging) (through : record.level.reaches options.level = true) :
    logging.book.log.streamText record =
      if record.level.reaches options.streamLevel then record.streamLine else "" := by
  unfold Log.streamText
  rw [keeps.level, through, keeps.handlers]
  cases place <;> simp [LogHandler.streamText, String.join_cons]

theorem written (keeps : Keeps options place logging) {location : Location} (at_ : place = some location) :
    options.file.isSome = true := by
  rw [← keeps.placed, at_]
  rfl

theorem exists_bytes (keeps : Keeps options place logging) {location : Location} (at_ : place = some location) :
    ∃ bytes, logging.around.tree.entry? location = some (.file bytes) := by
  obtain ⟨path, named⟩ := Option.isSome_iff_exists.mp (keeps.written at_)
  exact (keeps.file path named location at_).2

theorem entry?_store (keeps : Keeps options place logging) (record : LogRecord) (location : Location) :
    FileTree.entry? (logging.book.log.store stamp logging.around.tree record) location =
      if place = some location ∧ record.level.reaches options.fileLevel = true then
        some (.file (logging.around.tree.bytesAt location ++ Text.Utf8.ofString (record.fileLine stamp)))
      else logging.around.tree.entry? location :=
  Log.entry?_store keeps.level keeps.handlers (fun _ at_ => ⟨keeps.written at_, keeps.exists_bytes at_⟩) record location

theorem tells_of_low (low : record.level.reaches options.level = false) (keeps : Keeps options place logging) :
    Tells options place stamp record logging.around.tree logging.around.tree "" where
  text := by
    rw [if_neg fun reaches => ?_]
    rw [options.reaches_of_streamLevel reaches] at low
    cases low
  files := by
    intro location
    rw [if_neg]
    rintro ⟨at_, reaches⟩
    rw [LogOptions.reaches_of_fileLevel (keeps.written at_) reaches] at low
    cases low

theorem belongs_of_plain (keeps : Keeps options place logging) (plain : Text.startsIn part "." = false) :
    belongs (loggerName part :: logging.book.asked) (loggerName part) = true :=
  UsingCensus.belongs_of_plain (List.mem_cons_of_mem _ keeps.known) plain

theorem answers (keeps : Keeps options place logging) (stamp part : String) (level : LogLevel) (message : String) :
    Answers options place logging stamp part level message where
  told := by
    intro one
    have belonging := one.elim keeps.belongs_of_plain And.left
    have comes : (logging.book.ask (loggerName part)).logOf (loggerName part) = logging.book.log := if_pos belonging
    have fresh (reaches : level.reaches options.level = true) : (loggerName part, level) ∉ logging.book.refused := by
      rcases one with plain | ⟨_, new⟩
      · intro member
        rw [keeps.refused part level plain member] at reaches
        cases reaches
      · exact new
    cases low : level.reaches options.level with
    | false =>
      rw [tell_of_refused ((refuses_iff level message comes).mpr (.inr (keeps.level ▸ low)))]
      exact tells_of_low low keeps
    | true =>
      have passes : (logging.book.ask (loggerName part)).refuses (.of part level message) = false := by
        refine Bool.eq_false_iff.mpr fun refuses => ?_
        rcases (refuses_iff level message comes).mp refuses with remembered | below
        · exact fresh low remembered
        · rw [keeps.level, low] at below
          cases below
      rw [tell_of_passed passes comes]
      exact ⟨keeps.streamText_eq low, keeps.entry?_store _⟩
  strange := by
    intro foreign
    have comes : (logging.book.ask (loggerName part)).logOf (loggerName part) = Log.initial :=
      if_neg (Bool.eq_false_iff.mp foreign)
    have refused := refuses_iff level message comes
    cases refuses : (logging.book.ask (loggerName part)).refuses (.of part level message) with
    | true =>
      rw [tell_of_refused refuses]
      refine ⟨rfl, (if_neg fun spoken => ?_).symm⟩
      obtain ⟨reaches, new⟩ := Bool.and_eq_true_iff.mp spoken
      rcases refused.mp refuses with remembered | low
      · exact of_decide_eq_true new remembered
      · exact Bool.noConfusion (low.symm.trans reaches)
    | false =>
      obtain ⟨new, reaches⟩ := not_or.mp (mt refused.mpr (Bool.eq_false_iff.mp refuses))
      replace reaches : level.reaches .warning = true := (Bool.not_eq_false _).mp reaches
      rw [tell_of_passed refuses comes]
      dsimp only
      rw [store_initial, reaches, decide_eq_true new]
      refine ⟨rfl, ?_⟩
      have through : (LogRecord.of part level message).level.reaches Log.initial.level = true := reaches
      unfold Log.streamText
      rw [through]
      rfl

/-! ### Any number of steps -/

theorem grown_of_tells (keeps : Keeps options place logging) {after : FileTree} {text : String}
    (tells : Tells options place stamp record logging.around.tree after text) :
    FileTree.Grown (place = some ·) logging.around.tree after where
  same := fun location elsewhere => by rw [tells.files, if_neg fun both => elsewhere both.1]
  before := fun location at_ => .inr (keeps.exists_bytes at_)
  after := fun location at_ => by
    rw [tells.files]
    split
    · exact ⟨_, rfl⟩
    · exact keeps.exists_bytes at_

theorem of_told {next : Logging} (keeps : Keeps options place logging)
    (log : next.book.log = logging.book.log) (asked : next.book.asked = loggerName part :: logging.book.asked)
    (refused : ∀ part level, Text.startsIn part "." = false → (loggerName part, level) ∈ next.book.refused →
      level.reaches options.level = false)
    (grown : FileTree.Grown (place = some ·) logging.around.tree next.around.tree)
    (here : next.around.directory = logging.around.directory ∧ next.around.home = logging.around.home) :
    Keeps options place next where
  level := log ▸ keeps.level
  propagates := log ▸ keeps.propagates
  handlers := log ▸ keeps.handlers
  placed := keeps.placed
  file := by
    intro path named location at_
    have grows : Surroundings.Grown (place = some ·) logging.around next.around := ⟨grown, here.1, here.2⟩
    have leads := grows.seek_of_seek (keeps.file path named location at_).1
    unfold Surroundings.absolute at leads ⊢
    rw [here.1]
    exact ⟨leads, grown.after location at_⟩
  settled := Surroundings.Grown.settled ⟨grown, here.1, here.2⟩ keeps.settled
  known := asked ▸ List.mem_cons_of_mem _ keeps.known
  refused := refused

/-- A record leaves everything where it is, and what is refused of plain parts is too low. -/
theorem tell (keeps : Keeps options place logging) (stamp part : String) (level : LogLevel) (message : String) :
    Keeps options place (logging.tell stamp part level message).1 := by
  have still : FileTree.Grown (place = some ·) logging.around.tree logging.around.tree :=
    Grown.refl fun location at_ => keeps.exists_bytes at_
  cases refuses : (logging.book.ask (loggerName part)).refuses (.of part level message) with
  | true =>
    rw [tell_of_refused refuses]
    refine keeps.of_told rfl rfl (fun other low plain member => ?_) still ⟨rfl, rfl⟩
    rcases List.mem_cons.mp member with same | old
    · obtain ⟨name, rfl⟩ := Prod.mk.inj same
      have belonging := UsingCensus.belongs_of_plain (List.mem_cons_of_mem (loggerName part) keeps.known) plain
      rw [name] at belonging
      rcases (refuses_iff low message (if_pos belonging)).mp refuses with remembered | below
      · exact keeps.refused other low plain (name ▸ remembered)
      · exact keeps.level ▸ below
    · exact keeps.refused other low plain old
  | false =>
    rcases logOf_cases (logging.book.ask (loggerName part)) (loggerName part) with ⟨_, comes⟩ | ⟨_, comes⟩
    · have through : level.reaches options.level = true := by
        have passed := mt (refuses_iff level message comes).mpr (Bool.eq_false_iff.mp refuses)
        have reaches := (Bool.not_eq_false _).mp (not_or.mp passed).2
        rwa [← keeps.level]
      have tells : Tells options place stamp (.of part level message) logging.around.tree _ _ :=
        ⟨keeps.streamText_eq through, keeps.entry?_store _⟩
      rw [tell_of_passed refuses comes]
      exact keeps.of_told rfl rfl keeps.refused (keeps.grown_of_tells tells) ⟨rfl, rfl⟩
    · rw [tell_of_passed refuses comes, store_initial]
      exact keeps.of_told rfl rfl keeps.refused still ⟨rfl, rfl⟩

end Keeps

/-- A set-up that succeeds keeps to its options, whatever was set up before. -/
theorem keeps_configure {next : Logbook} {opened : Surroundings} (settled : logging.around.Settled)
    (set : logging.book.configure options logging.around = (next, opened, none)) :
    ∃ place, Keeps options place ⟨next, opened⟩ := by
  unfold Logbook.configure Log.configure at set
  cases named : options.file with
  | none =>
    simp only [named, Prod.mk.injEq] at set
    obtain ⟨rfl, rfl, _⟩ := set
    exact ⟨none, rfl, rfl, rfl, by rw [named]; rfl, by simp [named], settled, List.mem_cons_self, by simp⟩
  | some path =>
    simp only [named] at set
    split at set
    · cases set
    · rename_i location grown opens
      simp only [Prod.mk.injEq] at set
      obtain ⟨rfl, rfl, _⟩ := set
      have there := Surroundings.opens_of_openForAppending settled opens
      refine ⟨some location, rfl, rfl, rfl, by rw [named]; rfl, ?_, there.grown.settled settled, List.mem_cons_self,
        by simp⟩
      intro other same place at_
      obtain rfl : other = path := Option.some.inj ((Option.mem_def.mp same).symm.trans named)
      obtain rfl : location = place := Option.some.inj at_
      have leads := there.grown.seek_of_seek there.leads
      unfold Surroundings.absolute at leads ⊢
      rw [there.grown.directory]
      exact ⟨leads, _, there.bytes⟩

/-- How a log stands after some steps: as the last set-up left it, or as it was before any. -/
def Stands (latest : Option LogOptions) (logging : Logging) : Prop :=
  match latest with
  | none => logging.book.log = Log.initial ∧ logging.around.Settled
  | some options => ∃ place, Keeps options place logging

theorem Stands.settled {latest : Option LogOptions} (stands : Stands latest logging) : logging.around.Settled := by
  cases latest with
  | none => exact stands.2
  | some options => exact stands.elim fun place keeps => keeps.settled

theorem tell_of_initial (initial : logging.book.log = Log.initial) (stamp part : String) (level : LogLevel)
    (message : String) :
    (logging.tell stamp part level message).1.book.log = Log.initial ∧
      (logging.tell stamp part level message).1.around = logging.around := by
  cases refuses : (logging.book.ask (loggerName part)).refuses (.of part level message) with
  | true =>
    rw [tell_of_refused refuses]
    exact ⟨initial, rfl⟩
  | false =>
    have comes : (logging.book.ask (loggerName part)).logOf (loggerName part) = Log.initial := by
      rcases logOf_cases (logging.book.ask (loggerName part)) (loggerName part) with ⟨_, comes⟩ | ⟨_, comes⟩
      · exact comes.trans initial
      · exact comes
    rw [tell_of_passed refuses comes, store_initial]
    exact ⟨initial, rfl⟩

theorem stands_step {latest : Option LogOptions} {step : LogStep} {next : Logging} {text : String}
    (stands : Stands latest logging) (steps : logging.step step = .ok (next, text)) :
    Stands ((latest? [step]).or latest) next := by
  cases step with
  | configure options =>
    unfold step at steps
    dsimp only at steps
    split at steps
    · rename_i book opened set
      cases steps
      exact keeps_configure stands.settled set
    · cases steps
  | tell stamp part level message =>
    have told : (logging.tell stamp part level message).1 = next := (Prod.mk.inj (Except.ok.inj steps)).1
    cases latest with
    | none =>
      obtain ⟨log, still⟩ := tell_of_initial stands.1 stamp part level message
      rw [told] at log still
      exact ⟨log, still ▸ stands.2⟩
    | some options =>
      obtain ⟨place, keeps⟩ := stands
      exact ⟨place, told ▸ keeps.tell stamp part level message⟩

theorem stands_run {latest : Option LogOptions} {steps : List LogStep} {last : Logging} {texts : List String}
    (stands : Stands latest logging) (runs : logging.run steps = .ok (last, texts)) :
    Stands ((latest? steps).or latest) last := by
  induction steps generalizing logging latest texts with
  | nil =>
    cases runs
    exact stands
  | cons first rest ih =>
    rw [run] at runs
    cases step : logging.step first with
    | error fault =>
      rw [step] at runs
      cases runs
    | ok told =>
      obtain ⟨next, text⟩ := told
      rw [step] at runs
      cases later : next.run rest with
      | error fault =>
        simp only [bind, Except.bind, later] at runs
        cases runs
      | ok ended =>
        obtain ⟨final, others⟩ := ended
        simp only [bind, Except.bind, later] at runs
        cases runs
        have stood := ih (stands_step stands step) later
        rw [← Option.or_assoc] at stood
        have same : (latest? rest).or (latest? [first]) = latest? (first :: rest) := by
          cases first <;> simp [latest?]
        rwa [same] at stood

/-- However often it was set up, and whatever was told, a log stands as the latest set-up says, and answers any
record accordingly. -/
theorem run_answers (settled : around.Settled) {steps : List LogStep} {texts : List String}
    (runs : (start around).run steps = .ok (logging, texts)) (latest : latest? steps = some options) :
    ∃ place, Keeps options place logging ∧
      ∀ stamp part level message, Answers options place logging stamp part level message := by
  have stands : Stands ((latest? steps).or none) logging := stands_run ⟨rfl, settled⟩ runs
  rw [latest] at stands
  obtain ⟨place, keeps⟩ := stands
  exact ⟨place, keeps, keeps.answers⟩

/-- A directory in which a log file can be made. -/
def loggingSample : Surroundings where
  tree := FileTree.empty.insert ["r"] .directory
  directory := ["r"]
  home := "/r"

/-- Set up anew, now quiet and with a file: an ordinary part is told in the file alone, one that starts with a dot
on the stream alone. -/
theorem run_answers_sample :
    ∃ logging place, (start loggingSample).run [.configure ⟨true, false, none⟩, .tell "now" "cli" .debug "first",
        .configure ⟨false, true, some ⟨.here, ["run.log"]⟩⟩] =
        .ok (logging, ["", "[usingstats] DEBUG first\n", ""]) ∧
      Keeps ⟨false, true, some ⟨.here, ["run.log"]⟩⟩ place logging ∧
      Tells ⟨false, true, some ⟨.here, ["run.log"]⟩⟩ place "now" (.of "cli" .info "second") logging.around.tree
        (logging.tell "now" "cli" .info "second").1.around.tree "" ∧
      (logging.tell "now" ".x" .error "third").1.around = logging.around ∧
      (logging.tell "now" ".x" .error "third").2 = "third\n" := by
  have settled : loggingSample.Settled :=
    Surroundings.settled_of_directory rfl (by unfold FileTree.Legal; decide) (by decide +kernel)
  have told : ((start loggingSample).run [.configure ⟨true, false, none⟩, .tell "now" "cli" .debug "first",
      .configure ⟨false, true, some ⟨.here, ["run.log"]⟩⟩]).toOption.map
        (fun ran => (ran.1.book.asked, ran.1.book.refused, ran.2)) =
      some (["usingstats", "usingstats.cli", "usingstats"], [], ["", "[usingstats] DEBUG first\n", ""]) := by
    decide +kernel
  obtain ⟨⟨logging, texts⟩, ran, same⟩ := Option.map_eq_some_iff.mp told
  simp only [Prod.mk.injEq] at same
  obtain ⟨asked, refused, rfl⟩ := same
  have runs := eq_ok_of_toOption ran
  obtain ⟨place, keeps, answers⟩ := run_answers settled runs rfl
  have second := (answers "now" "cli" .info "second").told (.inl (by decide))
  have third := (answers "now" ".x" .error "third").strange (by rw [asked]; decide)
  refine ⟨logging, place, runs, keeps, ?_, third.1, ?_⟩
  · have silent : (logging.tell "now" "cli" .info "second").2 = "" := second.text.trans (by decide)
    exact silent ▸ second
  · rw [third.2, refused]
    decide

end Logging
end UsingCensus
