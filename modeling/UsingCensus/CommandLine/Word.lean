import UsingCensus.CommandLine.Basic

namespace UsingCensus.CommandLine

/-- A value in the same word as its switch. -/
inductive Attached where
  | absent
  | assigned (text : String)
  | glued (text : List Char)
  deriving DecidableEq, Repr

inductive Word where
  | plain (text : String)
  | divider
  | named (switch : Switch) (attached : Attached)
  | unknown (text : String)
  deriving DecidableEq, Repr

namespace Word

def dividerText : String := "--"

def isDecimal (c : Char) : Bool := (Text.digitValue? c).isSome

/-- A hyphen and digits, perhaps with a point before the last ones. A line feed at the end is overlooked. -/
def isNegativeNumber (cs : List Char) : Bool :=
  match cs with
  | '-' :: rest =>
    let body := if rest.getLast? = some '\n' then rest.dropLast else rest
    let whole := body.takeWhile isDecimal
    match body.drop whole.length with
    | [] => whole ≠ []
    | '.' :: fraction => fraction ≠ [] && fraction.all isDecimal
    | _ => false
  | _ => false

def unexplained (text : String) : Word :=
  if isNegativeNumber text.toList || text.toList.contains ' ' then plain text else unknown text

/-- The text before the first equals sign, and the text after it. -/
def splitAssignment (cs : List Char) : String × Attached :=
  let name := cs.takeWhile (· ≠ '=')
  match cs.drop name.length with
  | _ :: value => (String.ofList name, .assigned (String.ofList value))
  | [] => (String.ofList name, .absent)

def ofLong (text : String) : Except UsageFault Word :=
  let (name, attached) := splitAssignment text.toList
  match Switch.startingWith name with
  | [] => .ok (unexplained text)
  | [only] => .ok (named only attached)
  | several => .error (.ambiguous text several)

def ofShort (text : String) (letter : Char) (rest : List Char) : Word :=
  match Switch.ofLetter? letter with
  | none => unexplained text
  | some found =>
    match rest with
    | [] => named found .absent
    | '=' :: value => named found (.assigned (String.ofList value))
    | _ => named found (.glued rest)

def ofText (text : String) : Except UsageFault Word :=
  match text.toList with
  | '-' :: '-' :: _ => ofLong text
  | '-' :: letter :: rest => .ok (ofShort text letter rest)
  | _ => .ok (plain text)

def ofTexts : List String → Except UsageFault (List Word)
  | [] => .ok []
  | text :: rest => do
    if text = dividerText then return divider :: rest.map plain
    let first ← ofText text
    let more ← ofTexts rest
    return first :: more

end Word
end UsingCensus.CommandLine
