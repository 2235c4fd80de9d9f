import UsingCensus.Xml.Scan

/-!
The document type: entities with a text of their own, and attributes that elements have by default. Of
several declarations for one name the first counts. Nothing outside the document is read; once the type
refers to something outside, entities may be missing without harm in attribute values.
-/
namespace UsingCensus.Xml

/-- An attribute's default in a document type. -/
structure DeclaredAttribute where
  name : String
  value : Option String
  isWords : Bool

structure Doctype where
  entities : List (String × Option Chars)
  attributes : List (String × DeclaredAttribute)
  standsAlone : Bool
  reachesOut : Bool

namespace Doctype

def empty (standsAlone : Bool) : Doctype := ⟨[], [], standsAlone, false⟩

/-- Entities that are not declared here may be declared elsewhere. -/
def maySkip (doctype : Doctype) : Bool := doctype.reachesOut && !doctype.standsAlone

def predefined? : String → Option Char
  | "lt" => some '<'
  | "gt" => some '>'
  | "amp" => some '&'
  | "apos" => some '\''
  | "quot" => some '"'
  | _ => none

def entity? (doctype : Doctype) (name : String) : Option (Option Chars) :=
  (doctype.entities.find? (·.1 = name)).map Prod.snd

/-- The length of the longest entity. -/
def longestEntity (doctype : Doctype) : Nat :=
  (doctype.entities.map fun entity => (entity.2.getD []).length).foldr max 0

theorem length_le_longestEntity {doctype : Doctype} {name : String} {text : Chars}
    (found : doctype.entity? name = some (some text)) : text.length ≤ doctype.longestEntity := by
  unfold entity? at found
  unfold longestEntity
  generalize doctype.entities = entities at found
  induction entities with
  | nil => simp at found
  | cons entity rest ih =>
    rw [List.find?_cons] at found
    split at found
    · have same : entity.2 = some text := by simpa using found
      simp only [List.map_cons, List.foldr_cons, same, Option.getD_some]
      omega
    · have later := ih found
      simp only [List.map_cons, List.foldr_cons]
      omega

/-- How long reading may go on: `depth` entities may be entered before the rest is read. -/
def reach (doctype : Doctype) (depth : Nat) (cs : Chars) : Nat :=
  depth * (doctype.longestEntity + 1) + cs.length

theorem reach_lt {doctype : Doctype} {name : String} {text : Chars} {depth : Nat}
    (found : doctype.entity? name = some (some text)) (enters : depth ≠ 0) (cs : Chars) :
    doctype.reach (depth - 1) text < doctype.reach depth cs := by
  obtain ⟨fewer, rfl⟩ := Nat.exists_eq_succ_of_ne_zero enters
  have bounded := length_le_longestEntity found
  simp only [reach, Nat.succ_eq_add_one, Nat.add_sub_cancel, Nat.succ_mul]
  omega

def addEntity (doctype : Doctype) (name : String) (text : Option Chars) : Doctype :=
  { doctype with entities := doctype.entities ++ [(name, text)] }

def addAttribute (doctype : Doctype) (element : String) (declared : DeclaredAttribute) : Doctype :=
  if doctype.attributes.any fun (owner, old) => owner = element && old.name = declared.name then doctype
  else { doctype with attributes := doctype.attributes ++ [(element, declared)] }

def attributesOf (doctype : Doctype) (element : String) : List DeclaredAttribute :=
  (doctype.attributes.filter (·.1 = element)).map Prod.snd

end Doctype

/-- The text of an entity: references by number are replaced, references by name stay. -/
def entityText? (cs : Chars) : Option Chars :=
  match cs with
  | [] => some []
  | '%' :: _ => none
  | '&' :: '#' :: rest =>
    match charReference? rest with
    | some (c, after) => if after.length ≤ rest.length then (entityText? after).map (c :: ·) else none
    | none => none
  | '&' :: rest =>
    match plainName? rest with
    | some (name, ';' :: after) =>
      if after.length ≤ rest.length then
        (entityText? after).map (('&' :: name.toList ++ [';']) ++ ·)
      else none
    | _ => none
  | c :: rest => (entityText? rest).map (c :: ·)
termination_by cs.length

/-! ### Declarations

Declarations behind a reference to a parameter entity do not count, unless the document stands alone: they are read
for their form, but the values in them are not. -/

/-- An attribute value: blanks become spaces and references are replaced; `depth` bounds how far
entities may hold each other. -/
def attributeValue? (doctype : Doctype) (depth : Nat) (cs : Chars) : Option Chars :=
  match cs with
  | [] => some []
  | '<' :: _ => none
  | '&' :: '#' :: rest =>
    match charReference? rest with
    | some (c, after) =>
      if after.length ≤ rest.length then (attributeValue? doctype depth after).map (c :: ·) else none
    | none => none
  | '&' :: rest =>
    match plainName? rest with
    | some (name, ';' :: after) =>
      if after.length ≤ rest.length then
        match Doctype.predefined? name with
        | some c => (attributeValue? doctype depth after).map (c :: ·)
        | none =>
          match _found : doctype.entity? name with
          | some (some text) =>
            if depth = 0 then none
            else do return (← attributeValue? doctype (depth - 1) text) ++ (← attributeValue? doctype depth after)
          | some none => none
          | none => if doctype.maySkip then attributeValue? doctype depth after else none
      else none
    | _ => none
  | c :: rest => (attributeValue? doctype depth rest).map ((if isSpace c then ' ' else c) :: ·)
termination_by doctype.reach depth cs
decreasing_by all_goals first | exact Doctype.reach_lt ‹_› ‹_› _ | (simp only [Doctype.reach, List.length_cons]; omega)

/-- Values that are lists of words have single spaces between them and none around. -/
def squeezeWords (cs : Chars) : Chars :=
  Text.joinWith ' ' ((Text.splitAt ' ' cs).filter (· ≠ []))

/-- No entity can hold others to a greater depth without holding itself. -/
def Doctype.depth (doctype : Doctype) : Nat := doctype.entities.length + 1

def Doctype.value? (doctype : Doctype) (isWords : Bool) (raw : Chars) : Option String :=
  (attributeValue? doctype doctype.depth raw).map fun value =>
    String.ofList (if isWords then squeezeWords value else value)

def isPublicChar (c : Char) : Bool := c.isAlphanum || "-'()+,./:=?;!*#@$_% \n".toList.contains c

def publicId? (cs : Chars) : Option Chars := do
  let (text, rest) ← quoted? cs
  if text.all isPublicChar then return rest else none

/-- `SYSTEM` with one quoted text, or `PUBLIC` with two. -/
def externalId? (cs : Chars) : Option Chars :=
  match literal? "SYSTEM" cs with
  | some after => do return (← quoted? (← space? after)).2
  | none => do
    let rest ← publicId? (← space? (← literal? "PUBLIC" cs))
    return (← quoted? (← space? rest)).2

def entityDeclaration? (counts : Bool) (doctype : Doctype) (cs : Chars) : Option (Doctype × Chars) := do
  let start ← space? cs
  let (isParameter, named) ← match start with
    | '%' :: rest => (space? rest).map fun after => (true, after)
    | _ => some (false, start)
  let (name, rest) ← plainName? named
  let valued ← space? rest
  let add (text : Option Chars) : Doctype := if counts && !isParameter then doctype.addEntity name text else doctype
  match quoted? valued with
  | some (value, after) =>
    let text ← if counts then entityText? value else some []
    return (add (some text), ← literal? ">" (skipSpace after))
  | none =>
    let after ← externalId? valued
    let unparsed := match space? after with
      | some more => literal? "NDATA" more
      | none => none
    let rest ← match unparsed with
      | some more => if isParameter then none else do pure (← plainName? (← space? more)).2
      | none => some after
    return (add none, ← literal? ">" (skipSpace rest))

/-- Past an opening bracket, alternatives up to the closing one. -/
def alternatives? (one : Chars → Option Chars) (cs : Chars) : Option Chars :=
  match (one (skipSpace cs)).map skipSpace with
  | some (')' :: rest) => some rest
  | some ('|' :: rest) => if rest.length < cs.length then alternatives? one rest else none
  | _ => none
termination_by cs.length

/-- A word in which digits, hyphens, dots and colons can come first. -/
def word? (cs : Chars) : Option Chars :=
  let rest := cs.dropWhile fun c => isNameChar c || c = ':'
  if rest.length < cs.length then some rest else none

/-- The type of a declared attribute; the flag tells whether values are lists of words. -/
def attributeType? (cs : Chars) : Option (Bool × Chars) :=
  match cs with
  | '(' :: inner => (alternatives? word? inner).map fun rest => (true, rest)
  | _ => do
    let (word, rest) ← plainName? cs
    if word = "CDATA" then return (false, rest)
    else if word = "NOTATION" then
      let inner ← literal? "(" (← space? rest)
      return (true, ← alternatives? (fun one => (plainName? one).map Prod.snd) inner)
    else if ["ID", "IDREF", "IDREFS", "ENTITY", "ENTITIES", "NMTOKEN", "NMTOKENS"].contains word then
      return (true, rest)
    else none

/-- What stands for a missing attribute. -/
def attributeDefault? (cs : Chars) : Option (Option Chars × Chars) :=
  match literal? "#REQUIRED" cs, literal? "#IMPLIED" cs, literal? "#FIXED" cs with
  | some rest, _, _ => some (none, rest)
  | _, some rest, _ => some (none, rest)
  | _, _, some rest => do
    let (value, after) ← quoted? (← space? rest)
    return (some value, after)
  | _, _, _ => (quoted? cs).map fun (value, rest) => (some value, rest)

/-- The attributes of one element, up to the closing bracket. -/
def attributeList? (counts : Bool) (doctype : Doctype) (element : String) (cs : Chars) : Option (Doctype × Chars) :=
  match literal? ">" (skipSpace cs) with
  | some rest => some (doctype, rest)
  | none =>
    let entry := do
      let (name, rest) ← name? (← space? cs)
      let (isWords, typed) ← attributeType? (← space? rest)
      let (raw, after) ← attributeDefault? (← space? typed)
      if counts then
        let value ← match raw with
          | some raw => (doctype.value? isWords raw).map some
          | none => some none
        return (doctype.addAttribute element ⟨name, value, isWords⟩, after)
      else return (doctype, after)
    match entry with
    | none => none
    | some (next, after) => if after.length < cs.length then attributeList? counts next element after else none
termination_by cs.length

/-- Perhaps a sign that something may be missing or come again. -/
def repetition (cs : Chars) : Chars :=
  match cs with
  | c :: rest => if c = '?' || c = '*' || c = '+' then rest else cs
  | [] => []

/-- What an element may hold, given the signs between the parts of the open groups, innermost first, and whether a part
has just ended. -/
def contentParts? (signs : List (Option Char)) (ended : Bool) (cs : Chars) : Option Chars :=
  match ended, signs, skipSpace cs with
  | false, _, '(' :: rest => if rest.length < cs.length then contentParts? (none :: signs) false rest else none
  | false, _, inner =>
    match name? inner with
    | some (_, rest) =>
      if (repetition rest).length < cs.length then contentParts? signs true (repetition rest) else none
    | none => none
  | true, [_], ')' :: rest => some (repetition rest)
  | true, _ :: outer, ')' :: rest =>
    if (repetition rest).length < cs.length then contentParts? outer true (repetition rest) else none
  | true, sign :: outer, c :: rest =>
    if (c = ',' || c = '|') && sign.all (· = c) then
      if rest.length < cs.length then contentParts? (some c :: outer) false rest else none
    else none
  | true, _, _ => none
termination_by cs.length

/-- Past `#PCDATA`, with other elements or alone. -/
def mixedContent? (cs : Chars) : Option Chars :=
  match skipSpace cs with
  | ')' :: '*' :: rest => some rest
  | ')' :: rest => some rest
  | '|' :: inner => do literal? "*" (← alternatives? (fun one => (name? one).map Prod.snd) inner)
  | _ => none

def contentModel? (cs : Chars) : Option Chars :=
  match cs with
  | '(' :: inner =>
    match literal? "#PCDATA" (skipSpace inner) with
    | some rest => mixedContent? rest
    | none => contentParts? [none] false inner
  | _ => do
    let (word, rest) ← plainName? cs
    if word = "EMPTY" || word = "ANY" then return rest else none

/-- `SYSTEM` with a quoted text, or `PUBLIC` with one or two. -/
def notationId? (cs : Chars) : Option Chars :=
  match externalId? cs with
  | some rest => some rest
  | none => do publicId? (← space? (← literal? "PUBLIC" cs))

def declarationStep? (counts : Bool) (doctype : Doctype) (cs : Chars) : Option (Doctype × Chars) :=
  match literal? "<!--" cs, literal? "<?" cs, literal? "<!ENTITY" cs, literal? "<!ATTLIST" cs with
  | some rest, _, _, _ => (comment? rest).map fun after => (doctype, after)
  | _, some rest, _, _ => (instruction? rest).map fun after => (doctype, after)
  | _, _, some rest, _ => entityDeclaration? counts doctype rest
  | _, _, _, some rest => do
    let (element, after) ← name? (← space? rest)
    attributeList? counts doctype element after
  | _, _, _, _ =>
    match literal? "<!ELEMENT" cs, literal? "<!NOTATION" cs with
    | some rest, _ => do
      let (_, after) ← name? (← space? rest)
      return (doctype, ← literal? ">" (skipSpace (← contentModel? (← space? after))))
    | _, some rest => do
      let (_, after) ← plainName? (← space? rest)
      return (doctype, ← literal? ">" (skipSpace (← notationId? (← space? after))))
    | _, _ => none

/-- The part in brackets, up to the closing one. -/
def internalSubset? (counts : Bool) (doctype : Doctype) (cs : Chars) : Option (Doctype × Chars) :=
  match skipSpace cs with
  | ']' :: rest => some (doctype, rest)
  | '%' :: rest =>
    match plainName? rest with
    | some (_, ';' :: after) =>
      if after.length < cs.length then
        internalSubset? doctype.standsAlone { doctype with reachesOut := true } after
      else none
    | _ => none
  | inner =>
    match declarationStep? counts doctype inner with
    | some (next, after) => if after.length < cs.length then internalSubset? counts next after else none
    | none => none
termination_by cs.length

/-- Past `<!DOCTYPE`. -/
def doctype? (standsAlone : Bool) (cs : Chars) : Option (Doctype × Chars) := do
  let (_, rest) ← name? (← space? cs)
  let (reachesOut, after) ← match space? rest with
    | some more =>
      match externalId? more with
      | some beyond => some (true, skipSpace beyond)
      | none => some (false, more)
    | none => some (false, rest)
  let start := { Doctype.empty standsAlone with reachesOut := reachesOut }
  let (doctype, last) ← match after with
    | '[' :: inner => internalSubset? true start inner
    | _ => some (start, after)
  return (doctype, ← literal? ">" (skipSpace last))

end UsingCensus.Xml
