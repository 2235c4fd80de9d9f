import UsingCensus.Text.Quoted

namespace UsingCensus.Yaml

/-- The parts of a date and time that have bounds. -/
inductive TimestampFault where
  | year (n : Nat)
  | month
  | day
  | hour
  | minute
  | second
  | offset (seconds : Int)
  deriving DecidableEq, Repr

/-- The days, and the seconds that are left, of a span of time; parts that are zero are left out. -/
def spanText (seconds : Int) : String :=
  let part := fun (name : String) (size : Int) => if size = 0 then [] else [name ++ "=" ++ toString size]
  let parts := part "days" (seconds.fdiv 86400) ++ part "seconds" (seconds.fmod 86400)
  "datetime.timedelta(" ++ String.intercalate ", " parts ++ ")"

def TimestampFault.message : TimestampFault → String
  | .year n => "year " ++ toString n ++ " is out of range"
  | .month => "month must be in 1..12"
  | .day => "day is out of range for month"
  | .hour => "hour must be in 0..23"
  | .minute => "minute must be in 0..59"
  | .second => "second must be in 0..59"
  | .offset seconds =>
    "offset must be a timedelta strictly between -timedelta(hours=24) and timedelta(hours=24), not " ++
      spanText seconds ++ "."

inductive Fault where
  | malformed
  | notACharacter
  | characterTooLarge
  | notAnInteger (base : Nat) (text : String)
  | integerTooLong (digits : Nat)
  | notAFloat (text : String)
  | floatTooLarge
  | noDigits
  | notABoolean (text : String)
  | notATimestamp
  | notAText
  | endless
  | timestamp (fault : TimestampFault)
  deriving DecidableEq, Repr

/-- The longest quotation in a message about an integer. -/
def quotationLimit : Nat := 200

/-- `<yaml>` stands for every fault of form. -/
def Fault.message : Fault → String
  | .malformed => "<yaml>"
  | .notACharacter => "chr() arg not in range(0x110000)"
  | .characterTooLarge => "Python int too large to convert to C int"
  | .notAnInteger base text =>
    "invalid literal for int() with base " ++ toString base ++ ": " ++
      String.ofList ((Text.quoted text).toList.take quotationLimit)
  | .integerTooLong digits =>
    "Exceeds the limit (4300 digits) for integer string conversion: value has " ++ toString digits ++
      " digits; use sys.set_int_max_str_digits() to increase the limit"
  | .notAFloat text => "could not convert string to float: " ++ Text.quoted text
  | .floatTooLarge => "int too large to convert to float"
  | .noDigits => "string index out of range"
  | .notABoolean text => Text.quoted text
  | .notATimestamp => "'NoneType' object has no attribute 'groupdict'"
  | .notAText => "expected string or bytes-like object, got 'list'"
  | .endless => "maximum recursion depth exceeded"
  | .timestamp fault => fault.message

end UsingCensus.Yaml
