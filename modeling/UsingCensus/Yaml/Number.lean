import UsingCensus.Text.Integer
import UsingCensus.Yaml.Fault
import UsingCensus.Yaml.Tag

namespace UsingCensus.Yaml

def digitIn? (base : Nat) (c : Char) : Option Nat :=
  let value := if ('a' ≤ c ∧ c ≤ 'f') ∨ ('A' ≤ c ∧ c ≤ 'F') then some (Text.hexValue c) else Text.digitValue? c
  value.filter (· < base)

/-- Drop the letters that announce a base. -/
def dropBase (base : Nat) (cs : List Char) : List Char :=
  match base, cs with
  | 2, '0' :: 'b' :: rest => rest
  | 2, '0' :: 'B' :: rest => rest
  | 8, '0' :: 'o' :: rest => rest
  | 8, '0' :: 'O' :: rest => rest
  | 16, '0' :: 'x' :: rest => rest
  | 16, '0' :: 'X' :: rest => rest
  | _, cs => cs

/-- Read an integer of a base. Only those in base ten have a longest length. -/
def integerIn (base : Nat) (text : List Char) : Except Fault Int :=
  let (negative, unsigned) := Text.splitSign (Text.trim text)
  match (dropBase base unsigned).mapM (digitIn? base) with
  | some (first :: rest) =>
    if base = 10 && rest.length + 1 > Text.digitLimit then .error (.integerTooLong (rest.length + 1))
    else
      let size : Int := ((first :: rest).foldl (fun total digit => total * base + digit) 0 : Nat)
      .ok (if negative then -size else size)
  | _ => .error (.notAnInteger base (String.ofList text))

def unsignedInteger (digits : List Char) : Except Fault Int :=
  match digits with
  | [] => .error .noDigits
  | ['0'] => .ok 0
  | '0' :: 'b' :: rest => integerIn 2 rest
  | '0' :: 'x' :: rest => integerIn 16 rest
  | '0' :: rest => integerIn 8 ('0' :: rest)
  | _ =>
    ((Text.splitAt ':' digits).mapM (integerIn 10)).map fun parts =>
      parts.foldl (fun total part => total * 60 + part) 0

def integerValue (text : String) : Except Fault Int :=
  match text.toList.filter (· ≠ '_') with
  | [] => .error .noDigits
  | c :: rest =>
    if c = '-' then (unsignedInteger rest).map (-·)
    else unsignedInteger (if c = '+' then rest else c :: rest)

/-- Digits of any script, at least one of them around at most one point. -/
def isMantissa (cs : List Char) : Bool :=
  let isDigit := fun c => (Text.digitValue? c).isSome
  match Text.splitAt '.' cs with
  | [whole] => !whole.isEmpty && whole.all isDigit
  | [whole, fraction] => !(whole ++ fraction).isEmpty && (whole ++ fraction).all isDigit
  | _ => false

/-- A number with or without an exponent, or the name of an infinity or of no number. -/
def isFloatLiteral (text : List Char) : Bool :=
  let unsigned := dropSign ((Text.trim text).map Text.lower)
  if ["inf", "infinity", "nan"].contains (String.ofList unsigned) then true
  else
    match Text.splitAt 'e' unsigned with
    | [mantissa] => isMantissa mantissa
    | [mantissa, exponent] =>
      isMantissa mantissa && notEmptyAnd (fun c => (Text.digitValue? c).isSome) (dropSign exponent)
    | _ => false

/-- What is wrong with a float, if anything. Its value is never asked for, but the powers of sixty in it have
to be floats themselves. -/
def floatFault? (text : String) : Option Fault :=
  match (text.toList.filter (· ≠ '_')).map Text.lower with
  | [] => some .noDigits
  | c :: rest =>
    let unsigned := if isSign c then rest else c :: rest
    if unsigned = ".inf".toList || unsigned = ".nan".toList then none
    else
      let parts := if unsigned.contains ':' then Text.splitAt ':' unsigned else [unsigned]
      match parts.find? (!isFloatLiteral ·) with
      | some part => some (.notAFloat (String.ofList part))
      | none => if Nat.pow 2 1024 ≤ Nat.pow 60 (parts.length - 1) then some .floatTooLarge else none

def base64Alphabet : List Char := "ABCDEFGHIJKLMNOPQRSTUVWXYZabcdefghijklmnopqrstuvwxyz0123456789+/".toList

/-- Bytes in base 64 from a place in a group of four digits on, with the bits that are left from before
it. Enough padding ends the bytes, and all other characters are passed over. -/
def base64From (place left padding : Nat) : List Char → Option (List UInt8)
  | [] => if place = 0 then some [] else none
  | c :: rest =>
    if c = '=' then
      if 2 ≤ place ∧ 4 ≤ place + padding + 1 then some []
      else base64From place left (if 2 ≤ place then padding + 1 else padding) rest
    else
      match base64Alphabet.idxOf? c with
      | none => base64From place left padding rest
      | some digit =>
        match place with
        | 0 => base64From 1 digit 0 rest
        | 1 => (base64From 2 (digit % 16) 0 rest).map (UInt8.ofNat (left * 4 + digit / 16) :: ·)
        | 2 => (base64From 3 (digit % 4) 0 rest).map (UInt8.ofNat (left * 16 + digit / 4) :: ·)
        | _ => (base64From 0 0 0 rest).map (UInt8.ofNat (left * 64 + digit) :: ·)

def base64? (text : String) : Option (List UInt8) :=
  if text.toList.all (·.toNat < 128) then base64From 0 0 0 text.toList else none

end UsingCensus.Yaml
