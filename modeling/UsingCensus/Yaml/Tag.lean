import UsingCensus.Text.Letters

namespace UsingCensus.Yaml

inductive Tag where
  | null
  | boolean
  | integer
  | float
  | text
  | binary
  | timestamp
  | orderedMap
  | pairs
  | set
  | sequence
  | mapping
  | merge
  | value
  | unknown
  deriving DecidableEq, Repr

namespace Tag

/-- The tags that have a meaning, by the ends of their names. -/
def names : List (String × Tag) :=
  [("null", null), ("bool", boolean), ("int", integer), ("float", float), ("str", text),
    ("binary", binary), ("timestamp", timestamp), ("omap", orderedMap), ("pairs", pairs), ("set", set),
    ("seq", sequence), ("map", mapping), ("merge", merge), ("value", value)]

/-- What the names of these tags start with. -/
def space : String := "tag:yaml.org,2002:"

def ofUri (uri : String) : Tag :=
  if Text.startsIn uri space then (names.lookup (String.ofList (uri.toList.drop space.length))).getD unknown
  else unknown

/-- Collections cannot be keys. -/
def isCollection : Tag → Bool
  | orderedMap => true
  | pairs => true
  | set => true
  | sequence => true
  | mapping => true
  | _ => false

/-- Tags of values without parts. -/
def isAtomic : Tag → Bool
  | null => true
  | boolean => true
  | integer => true
  | float => true
  | text => true
  | binary => true
  | timestamp => true
  | _ => false

end Tag

def isNullText (text : String) : Bool := ["", "~", "null", "Null", "NULL"].contains text

def trueTexts : List String := ["yes", "Yes", "YES", "true", "True", "TRUE", "on", "On", "ON"]

def falseTexts : List String := ["no", "No", "NO", "false", "False", "FALSE", "off", "Off", "OFF"]

def isSign (c : Char) : Bool := c = '+' || c = '-'

def dropSign : List Char → List Char
  | c :: rest => if isSign c then rest else c :: rest
  | [] => []

def isLooseDigit (c : Char) : Bool := Text.isAsciiDigit c || c = '_'

/-- One or two digits below sixty. -/
def isSixtieth : List Char → Bool
  | [c] => Text.isAsciiDigit c
  | [c, d] => '0' ≤ c && c ≤ '5' && Text.isAsciiDigit d
  | _ => false

/-- Digits and underscores, a digit first. -/
def isLooseNumber : List Char → Bool
  | c :: rest => Text.isAsciiDigit c && rest.all isLooseDigit
  | [] => false

def notEmptyAnd (test : Char → Bool) (cs : List Char) : Bool := !cs.isEmpty && cs.all test

/-- Integers in base two, eight, ten, sixteen or sixty. -/
def isIntegerText (text : List Char) : Bool :=
  match dropSign text with
  | ['0'] => true
  | '0' :: 'b' :: digits => notEmptyAnd (fun c => c = '0' || c = '1' || c = '_') digits
  | '0' :: 'x' :: digits => notEmptyAnd (fun c => Text.isHexDigit c || c = '_') digits
  | '0' :: digits => digits.all fun c => ('0' ≤ c && c ≤ '7') || c = '_'
  | digits =>
    match Text.splitAt ':' digits with
    | first :: sixtieths => isLooseNumber first && sixtieths.all isSixtieth
    | [] => false

/-- Digits and underscores, and maybe an exponent with its sign. -/
def isFraction (cs : List Char) : Bool :=
  match cs.dropWhile isLooseDigit with
  | [] => true
  | e :: sign :: digits =>
    (e = 'e' || e = 'E') && isSign sign && notEmptyAnd Text.isAsciiDigit digits
  | _ => false

/-- Numbers with a point, in base ten or sixty, infinities, and what is no number. -/
def isFloatText (text : List Char) : Bool :=
  let unsigned := dropSign text
  let whole := unsigned.takeWhile (· ≠ '.')
  match unsigned.dropWhile (· ≠ '.') with
  | [] => false
  | _ :: fraction =>
    if whole = [] then
      ["inf", "Inf", "INF"].contains (String.ofList fraction) ||
        (unsigned = text && (["nan", "NaN", "NAN"].contains (String.ofList fraction) ||
          (fraction.head?.any Text.isAsciiDigit && isFraction fraction)))
    else
      match Text.splitAt ':' whole with
      | [digits] => isLooseNumber digits && isFraction fraction
      | first :: sixtieths =>
        isLooseNumber first && sixtieths.all isSixtieth && fraction.all isLooseDigit
      | [] => false

end UsingCensus.Yaml
