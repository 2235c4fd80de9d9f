import UsingCensus.FileTree.Append
import UsingCensus.Path.Normal

namespace UsingCensus

/-- How grave a record is. -/
structure LogLevel where
  weight : Int
  deriving DecidableEq, Repr

namespace LogLevel

def debug : LogLevel := ⟨10⟩

def info : LogLevel := ⟨20⟩

def warning : LogLevel := ⟨30⟩

def error : LogLevel := ⟨40⟩

def critical : LogLevel := ⟨50⟩

/-- Levels between the named ones are told by their numbers. -/
def label (level : LogLevel) : String :=
  match level.weight with
  | 0 => "NOTSET"
  | 10 => "DEBUG"
  | 20 => "INFO"
  | 30 => "WARNING"
  | 40 => "ERROR"
  | 50 => "CRITICAL"
  | weight => "Level " ++ toString weight

/-- Is a record of this level let through from the given level on? -/
def reaches (level threshold : LogLevel) : Bool := threshold.weight ≤ level.weight

end LogLevel

/-- Who logs: the program, or a part of it by its name. -/
def loggerName (part : String) : String := if part = "" then "usingstats" else "usingstats." ++ part

structure LogRecord where
  logger : String
  level : LogLevel
  message : String
  deriving DecidableEq, Repr

namespace LogRecord

def of (part : String) (level : LogLevel) (message : String) : LogRecord :=
  ⟨loggerName part, level, message⟩

def streamLine (record : LogRecord) : String :=
  "[usingstats] " ++ record.level.label ++ " " ++ record.message ++ "\n"

/-- The record as a line in a file, after the time stamp. -/
def fileLine (stamp : String) (record : LogRecord) : String :=
  stamp ++ " " ++ record.level.label ++ " " ++ record.logger ++ ": " ++ record.message ++ "\n"

end LogRecord

inductive LogHandler where
  | stream (level : LogLevel)
  | file (level : LogLevel) (location : Location)
  deriving DecidableEq, Repr

namespace LogHandler

def level : LogHandler → LogLevel
  | stream level => level
  | file level _ => level

def streamText (handler : LogHandler) (record : LogRecord) : String :=
  match handler with
  | stream level => if record.level.reaches level then record.streamLine else ""
  | file _ _ => ""

def store (handler : LogHandler) (stamp : String) (record : LogRecord) (tree : FileTree) : FileTree :=
  match handler with
  | stream _ => tree
  | file level location =>
    if record.level.reaches level then
      tree.append location (Text.Utf8.ofString (record.fileLine stamp))
    else tree

end LogHandler

/-- How a log is to be set up. Being verbose wins over being quiet. -/
structure LogOptions where
  verbose : Bool
  quiet : Bool
  file : Option Path
  deriving DecidableEq, Repr

namespace LogOptions

def streamLevel (options : LogOptions) : LogLevel :=
  if options.verbose then .debug else if options.quiet then .warning else .info

def fileLevel (options : LogOptions) : LogLevel := if options.verbose then .debug else .info

/-- The level of the whole log: that of its least demanding handler. -/
def level (options : LogOptions) : LogLevel :=
  if options.file.isSome then options.fileLevel else options.streamLevel

end LogOptions

/-- A log passes records on while it `propagates` them. -/
structure Log where
  level : LogLevel
  propagates : Bool
  handlers : List LogHandler
  deriving DecidableEq, Repr

namespace Log

def initial : Log := ⟨.warning, true, []⟩

def streaming (options : LogOptions) : Log := ⟨options.level, false, [.stream options.streamLevel]⟩

/-- Set a log up afresh, whatever it was. If the file cannot be opened the stream is set up nonetheless. -/
def configure (options : LogOptions) (around : Surroundings) : Log × Surroundings × Option PathFault :=
  let streaming := streaming options
  match options.file with
  | none => (streaming, around, none)
  | some path =>
    match around.openForAppending (around.absolute path).normal.toString with
    | .error fault => (streaming, around, some fault)
    | .ok (location, around) =>
      ({ streaming with handlers := streaming.handlers ++ [.file options.fileLevel location] }, around, none)

def streamText (log : Log) (record : LogRecord) : String :=
  if !record.level.reaches log.level then ""
  else if log.handlers = [] then record.message ++ "\n"
  else String.join (log.handlers.map fun handler => handler.streamText record)

def store (log : Log) (stamp : String) (tree : FileTree) (record : LogRecord) : FileTree :=
  if !record.level.reaches log.level then tree
  else log.handlers.foldl (fun tree handler => handler.store stamp record tree) tree

def streamTexts (log : Log) (records : List LogRecord) : String := String.join (records.map log.streamText)

def storeAll (log : Log) (stamp : String) (tree : FileTree) (records : List LogRecord) : FileTree :=
  records.foldl (log.store stamp) tree

end Log
end UsingCensus
