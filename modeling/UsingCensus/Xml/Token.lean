import UsingCensus.Xml.Doctype

namespace UsingCensus.Xml

inductive Token where
  | start (name : String) (attributes : List (String × String))
  | finish (name : String)
  | data (isPlain : Bool) (text : Chars)
  deriving DecidableEq, Repr

/-- Do tags pair up, with the given ones open before? -/
def pairsUp : List String → List Token → Bool
  | [], [] => true
  | _ :: _, [] => false
  | names, .start name _ :: rest => pairsUp (name :: names) rest
  | name :: names, .finish other :: rest => name = other && pairsUp names rest
  | [], .finish _ :: _ => false
  | names, .data _ _ :: rest => pairsUp names rest

/-- The attributes of a tag, as written, with the rest at the end of the tag. -/
def rawAttributes? (cs : Chars) : Option (List (String × Chars) × Chars) :=
  match skipSpace cs with
  | '>' :: rest => some ([], '>' :: rest)
  | '/' :: rest => some ([], '/' :: rest)
  | _ =>
    let entry := do
      let (name, rest) ← name? (← space? cs)
      let valued ← literal? "=" (skipSpace rest)
      let (value, after) ← quoted? (skipSpace valued)
      return ((name, value), after)
    match entry with
    | none => none
    | some (found, after) =>
      if after.length < cs.length then
        (rawAttributes? after).map fun (more, rest) => (found :: more, rest)
      else none
termination_by cs.length

/-- A start tag past its `<`, as one or two tokens. -/
def startTag? (doctype : Doctype) (cs : Chars) : Option (List Token × Chars) := do
  let (name, rest) ← name? cs
  let (raw, after) ← rawAttributes? rest
  guard (raw.map Prod.fst).Nodup
  let declared := doctype.attributesOf name
  let written ← raw.mapM fun (key, value) => do
    return (key, ← doctype.value? (((declared.find? (·.name = key)).map DeclaredAttribute.isWords).getD false) value)
  let missing := (declared.filter fun d => !raw.any (·.1 = d.name)).filterMap fun d =>
    d.value.map fun text => (d.name, text)
  let tag := Token.start name (written ++ missing)
  match after with
  | '/' :: '>' :: rest => return ([tag, .finish name], rest)
  | '>' :: rest => return ([tag], rest)
  | _ => none

/-- Character data before the next tag or reference, in which no `]]>` stands. -/
def plainData? (cs : Chars) : Option (Chars × Chars) :=
  let text := cs.takeWhile fun c => c ≠ '<' && c ≠ '&'
  if (upTo? "]]>" text).isSome then none else some (text, cs.drop text.length)

/-- One tag, comment, instruction or section past its `<`. -/
def markup? (doctype : Doctype) (cs : Chars) : Option (List Token × Chars) :=
  match literal? "/" cs, literal? "!--" cs, literal? "![CDATA[" cs, literal? "?" cs with
  | some rest, _, _, _ => do
    let (name, after) ← name? rest
    return ([.finish name], ← literal? ">" (skipSpace after))
  | _, some rest, _, _ => (comment? rest).map fun after => ([], after)
  | _, _, some rest, _ => (upTo? "]]>" rest).map fun (text, after) => ([.data false text], after)
  | _, _, _, some rest => (instruction? rest).map fun after => ([], after)
  | _, _, _, _ => startTag? doctype cs

def tokens? (doctype : Doctype) (depth : Nat) (cs : Chars) : Option (List Token) :=
  match cs with
  | [] => some []
  | '<' :: rest =>
    match markup? doctype rest with
    | some (found, after) =>
      if after.length ≤ rest.length then (tokens? doctype depth after).map (found ++ ·) else none
    | none => none
  | '&' :: '#' :: rest =>
    match charReference? rest with
    | some (c, after) =>
      if after.length ≤ rest.length then (tokens? doctype depth after).map (.data false [c] :: ·) else none
    | none => none
  | '&' :: rest =>
    match plainName? rest with
    | some (name, ';' :: after) =>
      if after.length ≤ rest.length then
        match Doctype.predefined? name with
        | some c => (tokens? doctype depth after).map (.data false [c] :: ·)
        | none =>
          match _found : doctype.entity? name with
          | some (some text) =>
            if depth = 0 then none
            else do
              let inner ← tokens? doctype (depth - 1) text
              if pairsUp [] inner then return inner ++ (← tokens? doctype depth after) else none
          | _ => none
      else none
    | _ => none
  | _ :: rest =>
    match plainData? cs with
    | some (text, after) =>
      if after.length ≤ rest.length then (tokens? doctype depth after).map (.data true text :: ·) else none
    | none => none
termination_by doctype.reach depth cs
decreasing_by all_goals first | exact Doctype.reach_lt ‹_› ‹_› _ | (simp only [Doctype.reach, List.length_cons]; omega)

end UsingCensus.Xml
