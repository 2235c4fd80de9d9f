import UsingCensus.Log

/-!
Logbooks: loggers by their dotted names. A logger stands under the nearest name around its own that was asked
for. What comes up to the program's own logger is told as that is set up, and what comes to no other is told as
before any set-up.
-/
namespace UsingCensus

def programLogger : String := loggerName ""

/-- Does a logger with these characters before it, held in reverse, come up to the program's own? The name
before each dot is looked at, the last one first, but a dot right before one that was looked at is passed
over. Whatever was asked for is gone on from. -/
def comesUp (asked : List String) : List Char → Bool
  | '.' :: c :: rest =>
    let name := String.ofList (c :: rest).reverse
    if name ∈ asked then name = programLogger || comesUp asked (c :: rest) else comesUp asked rest
  | _ :: rest => comesUp asked rest
  | [] => false

def belongs (asked : List String) (logger : String) : Bool :=
  logger = programLogger || comesUp asked logger.toList.reverse

/-- The program's log, the names of all loggers that were asked for, and what was refused since the last
set-up: a logger that refused a level once does so until then. -/
structure Logbook where
  log : Log
  asked : List String
  refused : List (String × LogLevel)
  deriving DecidableEq, Repr

namespace Logbook

def start : Logbook := ⟨Log.initial, [], []⟩

def ask (book : Logbook) (logger : String) : Logbook := { book with asked := logger :: book.asked }

/-- The log that a logger's records come to. -/
def logOf (book : Logbook) (logger : String) : Log :=
  if belongs book.asked logger then book.log else Log.initial

def refuses (book : Logbook) (record : LogRecord) : Bool :=
  (record.logger, record.level) ∈ book.refused || !record.level.reaches (book.logOf record.logger).level

def configure (options : LogOptions) (around : Surroundings) (book : Logbook) :
    Logbook × Surroundings × Option PathFault :=
  let (log, around, fault) := Log.configure options around
  (⟨log, programLogger :: book.asked, []⟩, around, fault)

/-- Tell a record of a logger that was asked for: what it adds to the error stream, and what it does to the
files. -/
def tell (stamp : String) (record : LogRecord) (tree : FileTree) (book : Logbook) :
    Logbook × FileTree × String :=
  if book.refuses record then
    ({ book with refused := (record.logger, record.level) :: book.refused }, tree, "")
  else
    let log := book.logOf record.logger
    (book, log.store stamp tree record, log.streamText record)

end Logbook

inductive LogStep where
  | configure (options : LogOptions)
  | tell (stamp part : String) (level : LogLevel) (message : String)
  deriving DecidableEq, Repr

structure Logging where
  book : Logbook
  around : Surroundings

namespace Logging

def start (around : Surroundings) : Logging := ⟨Logbook.start, around⟩

/-- Ask for the logger of a part, and tell it a record. -/
def tell (logging : Logging) (stamp part : String) (level : LogLevel) (message : String) : Logging × String :=
  let record := LogRecord.of part level message
  let (book, tree, text) := (logging.book.ask record.logger).tell stamp record logging.around.tree
  (⟨book, { logging.around with tree := tree }⟩, text)

/-- Take one step. A log file that cannot be opened is a fault. -/
def step (logging : Logging) : LogStep → Except PathFault (Logging × String)
  | .configure options =>
    match logging.book.configure options logging.around with
    | (book, around, none) => .ok (⟨book, around⟩, "")
    | (_, _, some fault) => .error fault
  | .tell stamp part level message => .ok (logging.tell stamp part level message)

/-- Take steps one after the other. What each adds to the error stream is kept apart. -/
def run (logging : Logging) : List LogStep → Except PathFault (Logging × List String)
  | [] => .ok (logging, [])
  | step :: rest => do
    let (next, text) ← logging.step step
    let (last, texts) ← next.run rest
    return (last, text :: texts)

end Logging
end UsingCensus
