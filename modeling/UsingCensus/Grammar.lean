import UsingCensus.Text.Letters
import UsingCensus.Text.Quoted

namespace UsingCensus

inductive GrammarOffer where
  | nothing
  | unusable
  | language (version : Nat)
  deriving DecidableEq, Repr

/-- Why the import of a module fails by itself: it cannot be imported, or it raises what the program does not take up,
be it the wish to leave. -/
inductive ImportMishap where
  | refused (reason : String)
  | raised (reason : String)
  deriving DecidableEq, Repr

/-- An installed module. Only packages hold other modules. Its import writes a greeting where results are written, and
may fail by itself. -/
structure GrammarModule where
  name : String
  isPackage : Bool
  offer : GrammarOffer
  greeting : String
  mishap : Option ImportMishap
  deriving DecidableEq, Repr

inductive GrammarFault where
  | missing (grammar absent : String)
  | notPackage (grammar absent parent : String)
  | refused (grammar reason : String)
  | raised (reason : String)
  | noLanguage (grammar : String)
  | unusable (grammar : String)
  | relative (grammar : String)
  | noName
  deriving DecidableEq, Repr

namespace GrammarFault

/-- Faults that are told as a grammar that cannot be located; the others end the program. -/
def isReported : GrammarFault → Bool
  | relative _ => false
  | noName => false
  | raised _ => false
  | _ => true

private def unable (grammar reason : String) : String :=
  "Unable to locate the C# grammar '" ++ grammar ++ "' (" ++ reason ++ "). Cannot continue."

private def notInstalled (grammar reason : String) : String := unable grammar ("module not installed: " ++ reason)

private def noModule (absent : String) : String := "No module named " ++ Text.quoted absent

def message : GrammarFault → String
  | missing grammar absent => notInstalled grammar (noModule absent)
  | notPackage grammar absent parent =>
    notInstalled grammar (noModule absent ++ "; " ++ Text.quoted parent ++ " is not a package")
  | refused grammar reason => notInstalled grammar reason
  | raised reason => reason
  | noLanguage grammar => unable grammar "module does not expose language()"
  | unusable grammar => unable grammar "an integer is required"
  | relative grammar =>
    "the 'package' argument is required to perform a relative import for " ++ Text.quoted grammar
  | noName => "Empty module name"

end GrammarFault

structure Grammar where
  name : String
  version : Nat
  deriving DecidableEq, Repr

namespace Grammar

def bundled : GrammarModule := ⟨"tree_sitter_c_sharp", true, .language 15, "", none⟩

/-- The dotted beginnings of a name, shortest first. -/
def beginnings (name : String) : List String :=
  let parts := Text.splitAt '.' name.toList
  (List.range parts.length).map fun n => String.ofList (Text.joinWith '.' (parts.take (n + 1)))

def module? (modules : List GrammarModule) (name : String) : Option GrammarModule :=
  modules.find? (·.name = name)

/-- Where an import stops: at a name that is not installed, behind the module before it, or in a module that fails. -/
inductive ImportStop where
  | absent (name : String) (parent : Option GrammarModule)
  | failed (mishap : ImportMishap)
  deriving DecidableEq, Repr

def firstStop? (modules : List GrammarModule) (parent : Option GrammarModule) : List String → Option ImportStop
  | [] => none
  | name :: rest =>
    match module? modules name with
    | none => some (.absent name parent)
    | some found =>
      match found.mishap with
      | some mishap => some (.failed mishap)
      | none => firstStop? modules (some found) rest

def locate (modules : List GrammarModule) (name : String) : Except GrammarFault Grammar :=
  if Text.startsIn name "." then .error (.relative name)
  else if name = "" then .error .noName
  else
    match firstStop? modules none (beginnings name) with
    | some (.absent absent (some parent)) =>
      if parent.isPackage then .error (.missing name absent)
      else .error (.notPackage name absent parent.name)
    | some (.absent absent none) => .error (.missing name absent)
    | some (.failed (.refused reason)) => .error (.refused name reason)
    | some (.failed (.raised reason)) => .error (.raised reason)
    | none =>
      match (module? modules name).map GrammarModule.offer with
      | some (.language version) => .ok ⟨name, version⟩
      | some .unusable => .error (.unusable name)
      | _ => .error (.noLanguage name)

structure Importing where
  text : String
  imported : List String
  deriving DecidableEq, Repr

/-- Import one after the other what has not been imported yet. A module whose import fails is not kept. -/
def importAll (modules : List GrammarModule) (imported : List String) : List String → Importing
  | [] => ⟨"", imported⟩
  | name :: rest =>
    if name ∈ imported then importAll modules imported rest
    else
      match module? modules name with
      | none => ⟨"", imported⟩
      | some found =>
        if found.mishap.isSome then ⟨found.greeting, imported⟩
        else
          let later := importAll modules (name :: imported) rest
          { later with text := found.greeting ++ later.text }

def importing (modules : List GrammarModule) (imported : List String) (name : String) : Importing :=
  if Text.startsIn name "." || name = "" then ⟨"", imported⟩ else importAll modules imported (beginnings name)

end Grammar
end UsingCensus
