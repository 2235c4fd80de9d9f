import UsingCensus.CommandLine.Word

namespace UsingCensus.CommandLine

/-- A switch with the value that it was given. -/
inductive Use where
  | flag (switch : Switch)
  | value (switch : Switch) (text : String)
  deriving DecidableEq, Repr

/-- The switches in one word: those that are complete, one that still lacks its value, and characters that
are no switch. -/
structure Cluster where
  uses : List Use
  waiting : Option Switch
  leftover : Option String
  deriving DecidableEq, Repr

namespace Cluster

/-- A switch that ends its word. -/
def last (switch : Switch) : Cluster :=
  if switch.takesValue then ⟨[], some switch, none⟩ else ⟨[.flag switch], none, none⟩

def assigned (switch : Switch) (text : String) : Except UsageFault Cluster :=
  if switch.takesValue then .ok ⟨[.value switch text], none, none⟩ else .error (.valueRefused switch text)

/-- What follows a switch's letter in its word: a value, or more letters. -/
def glued (switch : Switch) : List Char → Except UsageFault Cluster
  | [] => .ok (last switch)
  | c :: rest =>
    if c = '=' then assigned switch (String.ofList rest)
    else if switch.takesValue then .ok ⟨[.value switch (String.ofList (c :: rest))], none, none⟩
    else if c = '-' then .error (.valueRefused switch (String.ofList (c :: rest)))
    else
      match Switch.ofLetter? c with
      | none => .ok ⟨[.flag switch], none, some (String.ofList ('-' :: c :: rest))⟩
      | some next => do
        let cluster ← glued next rest
        return { cluster with uses := .flag switch :: cluster.uses }

def ofAttached (switch : Switch) : Attached → Except UsageFault Cluster
  | .absent => .ok (last switch)
  | .assigned text => assigned switch text
  | .glued text => glued switch text

end Cluster

def natural (switch : Switch) (text : String) : Except UsageFault Nat :=
  match Text.integer? text with
  | none => .error (.notInteger switch text)
  | some number => if number < 0 then .error (.negative switch) else .ok number.toNat

def positive (switch : Switch) (text : String) : Except UsageFault Nat :=
  match natural switch text with
  | .ok 0 => .error (.notPositive switch)
  | result => result

namespace Request

/-- Add a value. Switches without values are not concerned. -/
def addValue (arguments : Arguments) (switch : Switch) (text : String) : Except UsageFault Arguments :=
  match switch with
  | .count => do return { arguments with count := some (← natural .count text) }
  | .maxWorkers => do return { arguments with maxWorkers := some (← positive .maxWorkers text) }
  | .config => .ok { arguments with config := some text }
  | .logFile => .ok { arguments with logFile := some (Path.ofString text) }
  | _ => .ok arguments

def add : Request → Use → Except UsageFault Request
  | .help, _ => .ok .help
  | .run _, .flag .help => .ok .help
  | .run arguments, .flag .noWarn => .ok (.run { arguments with noWarn := true })
  | .run arguments, .flag .verbose => .ok (.run { arguments with verbose := true })
  | .run arguments, .flag _ => .ok (.run arguments)
  | .run arguments, .value switch text => do return .run (← addValue arguments switch text)

end Request

/-- Read words. `path` holds the path once it was met, and `extras` the words that nothing asks for. -/
def readWords (arguments : Arguments) (path : Option String) (extras : List String) :
    List Word → Except UsageFault Request
  | [] =>
    if extras = [] then .ok (.run { arguments with path := path.getD arguments.path })
    else .error (.unrecognized extras)
  | .unknown text :: rest => readWords arguments path (extras ++ [text]) rest
  | .named switch attached :: rest =>
    match Cluster.ofAttached switch attached with
    | .error fault => .error fault
    | .ok cluster =>
      match cluster.waiting, rest with
      | none, rest =>
        match cluster.uses.foldlM Request.add (.run arguments) with
        | .error fault => .error fault
        | .ok .help => .ok .help
        | .ok (.run arguments) => readWords arguments path (extras ++ cluster.leftover.toList) rest
      | some waiting, .plain value :: rest =>
        match (cluster.uses ++ [Use.value waiting value]).foldlM Request.add (.run arguments) with
        | .error fault => .error fault
        | .ok .help => .ok .help
        | .ok (.run arguments) => readWords arguments path extras rest
      | some waiting, _ => .error (.valueMissing waiting)
  | .plain text :: rest =>
    match path, rest with
    | none, .divider :: rest => readWords arguments (some text) extras rest
    | none, rest => readWords arguments (some text) extras rest
    | some _, rest => readWords arguments path (extras ++ [text]) rest
  | .divider :: rest =>
    match path, rest with
    | none, .plain text :: rest => readWords arguments (some text) extras rest
    | none, rest => readWords arguments (some arguments.path) extras rest
    | some _, rest => readWords arguments path (extras ++ [Word.dividerText]) rest

def read (texts : List String) : Except UsageFault Request := do
  readWords Arguments.standard none [] (← Word.ofTexts texts)

end UsingCensus.CommandLine
