import UsingCensus.Text.DecodeFault

namespace UsingCensus.Text.Utf16

inductive ByteOrder where
  | little
  | big
  deriving DecidableEq, Repr

def ByteOrder.encoding : ByteOrder → Encoding
  | .little => .utf16Little
  | .big => .utf16Big

def ByteOrder.mark : ByteOrder → List UInt8
  | .little => [0xFF, 0xFE]
  | .big => [0xFE, 0xFF]

def ByteOrder.bytes (order : ByteOrder) (unit : Nat) : List UInt8 :=
  match order with
  | .little => [(unit % 0x100).toUInt8, (unit / 0x100).toUInt8]
  | .big => [(unit / 0x100).toUInt8, (unit % 0x100).toUInt8]

def ByteOrder.unit (order : ByteOrder) (first second : UInt8) : Nat :=
  match order with
  | .little => second.toNat * 0x100 + first.toNat
  | .big => first.toNat * 0x100 + second.toNat

def units (c : Char) : List Nat :=
  if c.toNat < 0x10000 then [c.toNat]
  else [0xD800 + (c.toNat - 0x10000) / 0x400, 0xDC00 + (c.toNat - 0x10000) % 0x400]

def encode (order : ByteOrder) (cs : List Char) : List UInt8 :=
  cs.flatMap fun c => (units c).flatMap order.bytes

def isHigh (unit : Nat) : Bool := 0xD800 ≤ unit && unit < 0xDC00
def isLow (unit : Nat) : Bool := 0xDC00 ≤ unit && unit < 0xE000

/-- Read all from the given position on, or tell the first fault. -/
def decodeFrom (order : ByteOrder) (position : Nat) : List UInt8 → Except DecodeFault (List Char)
  | [] => .ok []
  | [byte] => .error ⟨order.encoding, position, 1, byte, .truncated⟩
  | a :: b :: rest =>
    let unit := order.unit a b
    if isLow unit then .error ⟨order.encoding, position, 2, a, .loneLowSurrogate⟩
    else if isHigh unit then
      match rest with
      | [] => .error ⟨order.encoding, position, 2, a, .unexpectedEnd⟩
      | [_] => .error ⟨order.encoding, position, 3, a, .unexpectedEnd⟩
      | x :: y :: more =>
        let second := order.unit x y
        if isLow second then
          let point := 0x10000 + (unit - 0xD800) * 0x400 + (second - 0xDC00)
          (decodeFrom order (position + 4) more).map (Char.ofNat point :: ·)
        else .error ⟨order.encoding, position, 2, a, .loneHighSurrogate⟩
    else (decodeFrom order (position + 2) rest).map (Char.ofNat unit :: ·)

end UsingCensus.Text.Utf16
