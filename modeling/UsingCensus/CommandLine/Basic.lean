import UsingCensus.Path.Basic
import UsingCensus.Text.Integer
import UsingCensus.Text.Quoted

namespace UsingCensus.CommandLine

inductive Switch where
  | help
  | count
  | noWarn
  | config
  | maxWorkers
  | verbose
  | logFile
  deriving DecidableEq, Repr

namespace Switch

def all : List Switch := [help, count, noWarn, config, maxWorkers, verbose, logFile]

def letter? : Switch → Option Char
  | help => some 'h'
  | count => some 'c'
  | noWarn => some 'q'
  | config => none
  | maxWorkers => some 'j'
  | verbose => some 'v'
  | logFile => none

def longName : Switch → String
  | help => "--help"
  | count => "--count"
  | noWarn => "--no-warn"
  | config => "--config"
  | maxWorkers => "--max-workers"
  | verbose => "--verbose"
  | logFile => "--log-file"

def takesValue : Switch → Bool
  | help => false
  | noWarn => false
  | verbose => false
  | _ => true

/-- All names of the switch, as messages give them. -/
def label (switch : Switch) : String :=
  match switch.letter? with
  | some letter => String.ofList ['-', letter] ++ "/" ++ switch.longName
  | none => switch.longName

def ofLetter? (letter : Char) : Option Switch := all.find? (·.letter? = some letter)

def startingWith (text : String) : List Switch := all.filter fun switch => Text.startsIn switch.longName text

end Switch

structure Arguments where
  path : String
  count : Option Nat
  noWarn : Bool
  config : Option String
  maxWorkers : Option Nat
  verbose : Bool
  logFile : Option Path
  deriving DecidableEq, Repr

/-- What holds without any words. -/
def Arguments.standard : Arguments := ⟨".", none, false, none, none, false, none⟩

inductive Request where
  | help
  | run (arguments : Arguments)
  deriving DecidableEq, Repr

inductive UsageFault where
  | ambiguous (word : String) (candidates : List Switch)
  | valueMissing (switch : Switch)
  | valueRefused (switch : Switch) (value : String)
  | notInteger (switch : Switch) (value : String)
  | negative (switch : Switch)
  | notPositive (switch : Switch)
  | unrecognized (words : List String)
  deriving DecidableEq, Repr

namespace UsageFault

private def about (switch : Switch) (complaint : String) : String :=
  "argument " ++ switch.label ++ ": " ++ complaint

def message : UsageFault → String
  | ambiguous word candidates =>
    "ambiguous option: " ++ word ++ " could match " ++
      String.intercalate ", " (candidates.map Switch.longName)
  | valueMissing switch => about switch "expected one argument"
  | valueRefused switch value => about switch ("ignored explicit argument " ++ Text.quoted value)
  | notInteger switch value => about switch ("invalid integer: " ++ Text.quoted value)
  | negative switch => about switch "must not be negative"
  | notPositive switch => about switch "must be at least 1"
  | unrecognized words => "unrecognized arguments: " ++ String.intercalate " " words

end UsageFault
end UsingCensus.CommandLine
