import UsingCensus.Text.Letters
import UsingCensus.Xml.Character

namespace UsingCensus.Xml

abbrev Chars := List Char

def literal? (text : String) (cs : Chars) : Option Chars :=
  if text.toList.isPrefixOf cs then some (cs.drop text.length) else none

def skipSpace (cs : Chars) : Chars := cs.dropWhile isSpace

def space? (cs : Chars) : Option Chars :=
  match cs with
  | c :: rest => if isSpace c then some (skipSpace rest) else none
  | [] => none

def upTo? (text : String) (cs : Chars) : Option (Chars × Chars) :=
  if text.toList.isPrefixOf cs then some ([], cs.drop text.length)
  else
    match cs with
    | [] => none
    | c :: rest => (upTo? text rest).map fun (before, after) => (c :: before, after)

def plainName? (cs : Chars) : Option (String × Chars) :=
  match cs with
  | c :: _ =>
    if isNameStart c then some (String.ofList (cs.takeWhile isNameChar), cs.dropWhile isNameChar) else none
  | [] => none

/-- A name with at most one colon, between two plain names. -/
def name? (cs : Chars) : Option (String × Chars) := do
  let (first, rest) ← plainName? cs
  match rest with
  | ':' :: after => (plainName? after).map fun (second, rest) => (first ++ ":" ++ second, rest)
  | _ => return (first, rest)

def quoted? (cs : Chars) : Option (Chars × Chars) :=
  match cs with
  | '"' :: rest => upTo? "\"" rest
  | '\'' :: rest => upTo? "'" rest
  | _ => none

/-- The character of a reference by number, past its `&#`. -/
def charReference? (cs : Chars) : Option (Char × Chars) := do
  let (hex, digits) := match cs with
    | 'x' :: rest => (true, rest)
    | _ => (false, cs)
  let (number, rest) ← upTo? ";" digits
  if number = [] ∨ ¬number.all (if hex then Text.isHexDigit else Text.isAsciiDigit) then none
  else
    let n := Text.digitsValue (if hex then 16 else 10) number
    if n.isValidChar && isLegal (Char.ofNat n) then some (Char.ofNat n, rest) else none

/-- A comment, past its `<!--`. -/
def comment? (cs : Chars) : Option Chars := do
  let (_, rest) ← upTo? "--" cs
  literal? ">" rest

/-- A processing instruction, past its `<?`. No target is spelled `xml` in any case. -/
def instruction? (cs : Chars) : Option Chars := do
  let (target, rest) ← plainName? cs
  if Text.lowerText target = "xml" then none
  else
    match literal? "?>" rest with
    | some after => return after
    | none => (upTo? "?>" (← space? rest)).map Prod.snd

end UsingCensus.Xml
