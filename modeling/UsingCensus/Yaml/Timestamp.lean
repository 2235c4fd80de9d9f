import UsingCensus.Yaml.Fault
import UsingCensus.Yaml.Tag

namespace UsingCensus.Yaml

structure TimeOfDay where
  hour : Nat
  minute : Nat
  second : Nat
  deriving DecidableEq, Repr

/-- `offset` is in seconds. -/
structure Timestamp where
  year : Nat
  month : Nat
  day : Nat
  time : Option TimeOfDay
  offset : Option Int
  deriving DecidableEq, Repr

namespace Timestamp

def digits? (least most : Nat) (cs : List Char) : Option (Nat × List Char) :=
  let digits := (cs.take most).takeWhile Text.isAsciiDigit
  if least ≤ digits.length then some (Text.digitsValue 10 digits, cs.drop digits.length) else none

def mark? (c : Char) : List Char → Option (List Char)
  | d :: rest => if d = c then some rest else none
  | [] => none

def isGap (c : Char) : Bool := c = ' ' || c = '\t'

/-- What divides the date and the time: a letter or blanks. -/
def divider? : List Char → Option (List Char)
  | c :: rest =>
    if c = 'T' || c = 't' then some rest
    else if isGap c then some (rest.dropWhile isGap)
    else none
  | [] => none

/-- A point and any number of digits. -/
def dropFraction : List Char → List Char
  | '.' :: rest => rest.dropWhile Text.isAsciiDigit
  | cs => cs

/-- An offset to the end of the text, or nothing. -/
def offset? (cs : List Char) : Option (Option Int) :=
  if cs = [] then some none
  else
    match cs.dropWhile isGap with
    | ['Z'] => some (some 0)
    | sign :: rest => do
      if !isSign sign then none
      else
        let (hours, rest) ← digits? 1 2 rest
        let (minutes, rest) ← if rest = [] then some (0, []) else mark? ':' rest >>= digits? 2 2
        let size : Int := (hours * 3600 + minutes * 60 : Nat)
        if rest = [] then some (some (if sign = '-' then -size else size)) else none
    | [] => none

def time? (cs : List Char) : Option (TimeOfDay × Option Int) := do
  let (hour, cs) ← divider? cs >>= digits? 1 2
  let (minute, cs) ← mark? ':' cs >>= digits? 2 2
  let (second, cs) ← mark? ':' cs >>= digits? 2 2
  let offset ← offset? (dropFraction cs)
  return (⟨hour, minute, second⟩, offset)

def ofText? (text : List Char) : Option Timestamp := do
  let (year, cs) ← digits? 4 4 text
  let (month, cs) ← mark? '-' cs >>= digits? 1 2
  let (day, cs) ← mark? '-' cs >>= digits? 1 2
  if cs = [] then return ⟨year, month, day, none, none⟩
  else
    let (time, offset) ← time? cs
    return ⟨year, month, day, some time, offset⟩

/-- A plain scalar is a timestamp if it has a time or a date of full length. -/
def isTimestampText (text : List Char) : Bool :=
  match ofText? text with
  | some timestamp => timestamp.time.isSome || text.length = 10
  | none => false

def isLeap (year : Nat) : Bool := year % 4 = 0 && (year % 100 ≠ 0 || year % 400 = 0)

def daysIn (year : Nat) : Nat → Nat
  | 2 => if isLeap year then 29 else 28
  | 4 => 30
  | 6 => 30
  | 9 => 30
  | 11 => 30
  | _ => 31

def dateFault? (year month day : Nat) : Option TimestampFault :=
  if year = 0 then some (.year year)
  else if month = 0 || month > 12 then some .month
  else if day = 0 || day > daysIn year month then some .day
  else none

def timeFault? (time : TimeOfDay) : Option TimestampFault :=
  if time.hour > 23 then some .hour
  else if time.minute > 59 then some .minute
  else if time.second > 59 then some .second
  else none

def offsetFault? (offset : Int) : Option TimestampFault :=
  if offset.natAbs ≥ 86400 then some (.offset offset) else none

/-- The first thing that is wrong with a timestamp: its offset, its date, its time. -/
def fault? (timestamp : Timestamp) : Option TimestampFault :=
  (timestamp.offset.bind offsetFault?).or
    ((dateFault? timestamp.year timestamp.month timestamp.day).or (timestamp.time.bind timeFault?))

end Timestamp

/-- The tag of a plain scalar. One line feed at the end does not count. -/
def plainTag (text : String) : Tag :=
  let cs := if text.toList.getLast? = some '\n' then text.toList.dropLast else text.toList
  let spelled := String.ofList cs
  if isNullText spelled && (text = "" || spelled ≠ "") then .null
  else if trueTexts.contains spelled || falseTexts.contains spelled then .boolean
  else if isFloatText cs then .float
  else if isIntegerText cs then .integer
  else if Timestamp.isTimestampText cs then .timestamp
  else if spelled = "<<" then .merge
  else if spelled = "=" then .value
  else .text

end UsingCensus.Yaml
