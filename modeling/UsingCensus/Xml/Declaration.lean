import UsingCensus.Xml.Scan

namespace UsingCensus.Xml

def isPseudoChar (c : Char) : Bool := c.isAlphanum || c = '.' || c = '-' || c = '_'

/-- Blanks, a word, an equals sign, and a quoted value of letters, digits, dots, hyphens and underscores. -/
def pseudoAttribute? (cs : Chars) : Option ((String × String) × Chars) := do
  let named ← space? cs
  let word := named.takeWhile Char.isAlpha
  let valued ← literal? "=" (skipSpace (named.drop word.length))
  let (value, rest) ← quoted? (skipSpace valued)
  if value.all isPseudoChar then return ((String.ofList word, String.ofList value), rest) else none

def pseudoAttributes? (cs : Chars) : Option (List (String × String)) :=
  if skipSpace cs = [] then some []
  else
    match pseudoAttribute? cs with
    | none => none
    | some (pair, rest) =>
      if rest.length < cs.length then (pseudoAttributes? rest).map (pair :: ·) else none
termination_by cs.length

def isEncodingName (name : String) : Bool := (name.toList.head?.map Char.isAlpha).getD false

structure Declaration where
  encoding : Option String
  standsAlone : Bool

def standsAlone? : String → Option Bool
  | "yes" => some true
  | "no" => some false
  | _ => none

def declared? : List (String × String) → Option Declaration
  | [("version", _)] => some ⟨none, false⟩
  | [("version", _), ("encoding", name)] => if isEncodingName name then some ⟨some name, false⟩ else none
  | [("version", _), ("standalone", value)] => (standsAlone? value).map fun alone => ⟨none, alone⟩
  | [("version", _), ("encoding", name), ("standalone", value)] =>
    if isEncodingName name then (standsAlone? value).map fun alone => ⟨some name, alone⟩ else none
  | _ => none

def declaration? (cs : Chars) : Option (Declaration × Chars) :=
  match literal? "<?xml" cs with
  | none => some (⟨none, false⟩, cs)
  | some after =>
    if (after.head?.map isNameChar).getD false then some (⟨none, false⟩, cs)
    else do
      let (body, rest) ← upTo? "?>" after
      return (← declared? (← pseudoAttributes? body), rest)

end UsingCensus.Xml
