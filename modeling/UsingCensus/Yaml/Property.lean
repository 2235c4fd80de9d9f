import UsingCensus.Text.Integer
import UsingCensus.Text.Utf8
import UsingCensus.Yaml.Scalar

namespace UsingCensus.Yaml

def isNameChar (c : Char) : Bool :=
  Text.isAsciiDigit c || ('A' ≤ c && c ≤ 'Z') || ('a' ≤ c && c ≤ 'z') || c = '-' || c = '_'

def nameLength (cs : List Char) : Nat := (cs.takeWhile isNameChar).length

/-- Marks that may follow the name of an anchor directly. -/
def endsAnchor (next : Option Char) : Bool := endsWord next || next.any "?:,]\x7d%@`".toList.contains

def anchorName? (cs : List Char) : Option (String × Nat) :=
  let name := cs.takeWhile isNameChar
  if name = [] || !endsAnchor cs[name.length]? then none else some (String.ofList name, name.length)

/-- Characters that stand for themselves in a tag. -/
def isUriChar (c : Char) : Bool := isNameChar c || ";/?:@&=+$,.!~*'()[]".toList.contains c

/-- The bytes of escapes that follow each other directly. -/
def escapedBytes? : List Char → Option (List UInt8)
  | '%' :: a :: b :: rest =>
    if Text.isHexDigit a && Text.isHexDigit b then
      (escapedBytes? rest).map (UInt8.ofNat (Text.hexValue a * 16 + Text.hexValue b) :: ·)
    else none
  | '%' :: _ => none
  | _ => some []

/-- The text of a tag with its escapes read, and its length. -/
def uriFrom? (cs : List Char) : Option (List Char × Nat) :=
  match cs with
  | [] => some ([], 0)
  | c :: rest =>
    if c = '%' then
      match escapedBytes? (c :: rest) with
      | none => none
      | some bytes =>
        match Text.Utf8.decode bytes with
        | .error _ => none
        | .ok chars =>
          (uriFrom? (rest.drop (3 * bytes.length - 1))).map fun (text, n) =>
            (chars ++ text, n + 3 * bytes.length)
    else if isUriChar c then (uriFrom? rest).map fun (text, n) => (c :: text, n + 1)
    else some ([], 0)
termination_by cs.length
decreasing_by all_goals simp only [List.length_drop, List.length_cons]; omega

def uri? (cs : List Char) : Option (String × Nat) :=
  match uriFrom? cs with
  | some (text, n) => if n = 0 then none else some (String.ofList text, n)
  | none => none

/-- A handle after its first exclamation mark: a name and a second mark. -/
def namedHandle? (cs : List Char) : Option (String × Nat) :=
  let n := nameLength cs
  if cs[n]? = some '!' then some (String.ofList ('!' :: cs.take (n + 1)), n + 1) else none

/-- A tag as it is written: a handle with a suffix, or the whole tag without a handle. -/
structure WrittenTag where
  handle : Option String
  suffix : String
  deriving DecidableEq, Repr

/-- A tag in angle brackets, the lone mark that asks for a plain reading, or a handle and a suffix. -/
def tagBody? (cs : List Char) : Option (WrittenTag × Nat) :=
  match cs with
  | '<' :: rest => do
    let (text, n) ← uri? rest
    if rest[n]? = some '>' then some (⟨none, text⟩, n + 2) else none
  | _ =>
    if endsWord cs.head? then some (⟨none, "!"⟩, 0)
    else if (cs.takeWhile fun c => !endsField (some c)).contains '!' then do
      let (handle, n) ← namedHandle? cs
      let (text, m) ← uri? (cs.drop n)
      some (⟨some handle, text⟩, n + m)
    else do
      let (text, n) ← uri? cs
      some (⟨some "!", text⟩, n)

/-- A tag after its exclamation mark. -/
def writtenTag? (cs : List Char) : Option (WrittenTag × Nat) := do
  let (tag, n) ← tagBody? cs
  if endsField cs[n]? then some (tag, n) else none

/-- Directives with a meaning, and those that are passed over. -/
inductive Directive where
  | version (major : Nat)
  | handle (name uri : String)
  | reserved
  deriving DecidableEq, Repr

/-- What is missing is a fault of form. -/
def formed (part : Option α) : Except Fault α :=
  match part with
  | some value => .ok value
  | none => .error .malformed

/-- Decimal digits, at least one and not too many. -/
def number (cs : List Char) : Except Fault (Nat × Nat) :=
  let digits := cs.takeWhile Text.isAsciiDigit
  if digits = [] then .error .malformed
  else if digits.length > Text.digitLimit then .error (.integerTooLong digits.length)
  else .ok (Text.digitsValue 10 digits, digits.length)

def spaceCount (cs : List Char) : Nat := (cs.takeWhile (· = ' ')).length

/-- Two numbers with a point between them. -/
def versionBody (cs : List Char) : Except Fault (Directive × Nat) := do
  let (major, n) ← number cs
  if cs[n]? ≠ some '.' then .error .malformed
  else
    let (_, m) ← number (cs.drop (n + 1))
    return (.version major, n + 1 + m)

/-- A handle, spaces and what the handle stands for. -/
def handleBody? (cs : List Char) : Option (Directive × Nat) :=
  match cs with
  | '!' :: rest => do
    let (name, n) ← if rest.head? = some ' ' then some ("!", 0) else namedHandle? rest
    let spaces := spaceCount (rest.drop n)
    if spaces = 0 then none
    else
      let (uri, m) ← uri? (rest.drop (n + spaces))
      some (.handle name uri, 1 + n + spaces + m)
  | _ => none

/-- What follows the name of a directive. -/
def directiveBody (name : String) (cs : List Char) : Except Fault (Directive × Nat) :=
  let spaces := spaceCount cs
  let within := fun (body : Except Fault (Directive × Nat)) => do
    let (directive, n) ← body
    if endsField cs[spaces + n]? then .ok (directive, spaces + n) else .error .malformed
  if name = "YAML" then within (versionBody (cs.drop spaces))
  else if name = "TAG" then within (formed (handleBody? (cs.drop spaces)))
  else .ok (.reserved, (cs.takeWhile (!isBreak ·)).length)

/-- A directive after its percent sign, with the line break that ends it. -/
def directive (cs : List Char) : Except Fault (Directive × Nat) := do
  let n := nameLength cs
  if n = 0 || !endsField cs[n]? then .error .malformed
  else
    let (directive, m) ← directiveBody (String.ofList (cs.take n)) (cs.drop n)
    let ignored ← formed (ignoredLine? (cs.drop (n + m)))
    return (directive, n + m + ignored)

end UsingCensus.Yaml
