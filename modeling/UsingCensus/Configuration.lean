import UsingCensus.FileTree.Canonical
import UsingCensus.Text.Lines
import UsingCensus.Yaml.Construction

namespace UsingCensus

/-- `root` is the directory of the configuration file. -/
structure Configuration where
  root : Path
  count : Option Nat
  noWarn : Bool
  maxWorkers : Option Nat
  generatedFiles : List String
  excludePaths : List String
  grammar : String
  deriving DecidableEq, Repr

inductive ConfigurationFault where
  | notFound (file : Path)
  | unreadable (name : String) (fault : PathFault)
  | malformed (name : String)
  | notMapping (name : String)
  | notInteger (setting : String)
  | negative (setting : String)
  | notPositive (setting : String)
  | notBoolean (setting : String)
  | notTextList (setting : String)
  | noModuleName (setting : String)
  | path (fault : PathFault)
  | unresolved (fault : CanonicalFault)
  | undecodable (fault : Text.DecodeFault)
  | senseless (fault : Yaml.Fault)
  deriving DecidableEq, Repr

namespace ConfigurationFault

/-- Faults that are told as faults of the configuration; the others end the program. -/
def isReported : ConfigurationFault → Bool
  | path _ => false
  | unresolved _ => false
  | undecodable _ => false
  | senseless _ => false
  | _ => true

def message : ConfigurationFault → String
  | notFound file => "Configuration file not found: " ++ file.toString
  | unreadable name fault => "Failed to read " ++ name ++ ": " ++ fault.message
  | malformed name => "Failed to parse " ++ name ++ ": " ++ Yaml.Fault.malformed.message
  | notMapping name => name ++ " must contain a mapping at the root"
  | notInteger setting => setting ++ " must be an integer"
  | negative setting => setting ++ " must not be negative"
  | notPositive setting => setting ++ " must be a positive integer"
  | notBoolean setting => setting ++ " must be true or false"
  | notTextList setting => setting ++ " must be a list of strings"
  | noModuleName setting => setting ++ " must be a module name"
  | path fault => fault.message
  | unresolved fault => fault.message
  | undecodable fault => fault.message
  | senseless fault => fault.message

end ConfigurationFault

namespace Configuration

open Yaml (Value)

def fileName : String := ".usingstats.yml"

def defaultGeneratedFiles : List String := ["GlobalUsings.g.cs"]

def defaultGrammar : String := "tree_sitter_c_sharp"

def standard (root : Path) : Configuration :=
  ⟨root, none, false, none, defaultGeneratedFiles, [], defaultGrammar⟩

def setting? (entries : List (Value × Value)) (name : String) : Option Value :=
  (entries.reverse.find? fun (key, _) =>
    match key with
    | .text text => text = name
    | _ => false).map Prod.snd

def natural (setting : String) (value : Value) : Except ConfigurationFault (Option Nat) :=
  match value with
  | .null => .ok none
  | .integer n => if n < 0 then .error (.negative setting) else .ok (some n.toNat)
  | _ => .error (.notInteger setting)

def positive (setting : String) (value : Value) : Except ConfigurationFault (Option Nat) :=
  match natural setting value with
  | .ok (some 0) => .error (.notPositive setting)
  | result => result

def boolean (setting : String) (value : Value) : Except ConfigurationFault Bool :=
  match value with
  | .boolean b => .ok b
  | _ => .error (.notBoolean setting)

def text? (value : Value) : Option String :=
  match value with
  | .text s => some s
  | _ => none

/-- A list of texts, one text, or none. Bytes are a list of numbers, so only no bytes are a list of texts. -/
def texts (setting : String) (value : Value) : Except ConfigurationFault (List String) :=
  match value with
  | .null => .ok []
  | .text s => .ok [s]
  | .bytes [] => .ok []
  | .sequence items =>
    match items.mapM text? with
    | some list => .ok list
    | none => .error (.notTextList setting)
  | _ => .error (.notTextList setting)

def moduleName (setting : String) (value : Value) : Except ConfigurationFault String :=
  match value with
  | .text s =>
    if Text.trim s.toList = [] then .error (.noModuleName setting)
    else .ok (String.ofList (Text.trim s.toList))
  | _ => .error (.noModuleName setting)

def readSetting (entries : List (Value × Value)) (name : String) (absent : α)
    (read : String → Value → Except ConfigurationFault α) : Except ConfigurationFault α :=
  match setting? entries name with
  | none => .ok absent
  | some value => read name value

def ofEntries (root : Path) (entries : List (Value × Value)) : Except ConfigurationFault Configuration := do
  let count ← readSetting entries "count" none natural
  let noWarn ← readSetting entries "no_warn" false boolean
  let maxWorkers ← readSetting entries "max_workers" none positive
  let generatedFiles ← readSetting entries "generated_files" defaultGeneratedFiles texts
  let excludePaths ← readSetting entries "exclude_paths" [] texts
  let grammar ← readSetting entries "grammar" defaultGrammar moduleName
  return ⟨root, count, noWarn, maxWorkers, generatedFiles, excludePaths, grammar⟩

/-- How deep settings lie: a mapping, its values, and their items. -/
def depth : Nat := 3

/-- The configuration in the text of a file. A blank text and an empty document set nothing. -/
def ofText (root : Path) (name : String) (text : List Char) : Except ConfigurationFault Configuration :=
  if Text.trim text = [] then ofEntries root []
  else
    match Value.ofText depth text with
    | .error .malformed => .error (.malformed name)
    | .error fault => .error (.senseless fault)
    | .ok .null => ofEntries root []
    | .ok (.mapping entries) => ofEntries root entries
    | .ok _ => .error (.notMapping name)

end Configuration

namespace Surroundings

def canonicalOf (around : Surroundings) (path : Path) : Except ConfigurationFault Path :=
  match around.canonical path with
  | .ok canonical => .ok canonical
  | .error fault => .error (.unresolved fault)

/-- The configuration file that a path stands for: in a directory or next to a solution or project the
file of the usual name, else itself. -/
def configurationFile (around : Surroundings) (path : Path) : Except ConfigurationFault Path :=
  match around.expandHome path with
  | .error fault => .error (.unresolved fault)
  | .ok path =>
    match around.probe path.toString with
    | .error fault => .error (.path fault)
    | .ok (some .directory) => around.canonicalOf (path.child Configuration.fileName)
    | .ok _ =>
      if [".sln", ".csproj"].contains (Text.lowerText path.suffix) then
        around.canonicalOf (path.parent.child Configuration.fileName)
      else around.canonicalOf path

def readConfiguration (around : Surroundings) (root file : Path) :
    Except ConfigurationFault Configuration :=
  match around.read file.toString with
  | .error fault => .error (.unreadable file.name fault)
  | .ok bytes =>
    match Text.Utf8.decode bytes with
    | .error fault => .error (.undecodable fault)
    | .ok text => Configuration.ofText root file.name (Text.unifyLineEnds text)

/-- The configuration that a path stands for. A missing file sets nothing, unless it is required. -/
def configuration (around : Surroundings) (path : Path) (required : Bool) :
    Except ConfigurationFault Configuration := do
  let file ← around.configurationFile path
  let root ← around.canonicalOf file.parent
  match around.probe file.toString with
  | .error fault => .error (.path fault)
  | .ok (some _) => around.readConfiguration root file
  | .ok none =>
    if required then .error (.notFound file) else .ok (Configuration.standard root)

end Surroundings
end UsingCensus
