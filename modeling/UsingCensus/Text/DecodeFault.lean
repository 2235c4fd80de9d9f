import UsingCensus.Text.Letters

namespace UsingCensus.Text

/-- The encodings whose faults are reported by position. -/
inductive Encoding where
  | utf8
  | utf16Little
  | utf16Big
  deriving DecidableEq, Repr

def Encoding.label : Encoding → String
  | .utf8 => "utf-8"
  | .utf16Little => "utf-16-le"
  | .utf16Big => "utf-16-be"

inductive DecodeReason where
  | invalidStart
  | invalidContinuation
  | unexpectedEnd
  | truncated
  | loneHighSurrogate
  | loneLowSurrogate
  deriving DecidableEq, Repr

def DecodeReason.label : DecodeReason → String
  | .invalidStart => "invalid start byte"
  | .invalidContinuation => "invalid continuation byte"
  | .unexpectedEnd => "unexpected end of data"
  | .truncated => "truncated data"
  | .loneHighSurrogate => "illegal UTF-16 surrogate"
  | .loneLowSurrogate => "illegal encoding"

/-- The faulty bytes stand at `start` and the following positions; `first` is the first of `size`. -/
structure DecodeFault where
  encoding : Encoding
  start : Nat
  size : Nat
  first : UInt8
  reason : DecodeReason
  deriving DecidableEq, Repr

/-- One byte is named by value and place, several by their places only. -/
def DecodeFault.message (fault : DecodeFault) : String :=
  let place :=
    if fault.size = 1 then
      "byte 0x" ++ String.ofList (paddedHex 2 fault.first.toNat) ++ " in position " ++ toString fault.start
    else
      "bytes in position " ++ toString fault.start ++ "-" ++ toString (fault.start + fault.size - 1)
  "'" ++ fault.encoding.label ++ "' codec can't decode " ++ place ++ ": " ++ fault.reason.label

end UsingCensus.Text
