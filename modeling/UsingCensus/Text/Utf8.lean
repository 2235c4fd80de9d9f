import UsingCensus.Text.DecodeFault

/-!
UTF-8. Bytes are cut into pieces, each a character or a run of bytes that cannot start or continue one;
strict, replacing and skipping readers all read the same pieces.
-/
namespace UsingCensus.Text.Utf8

def encodeChar (c : Char) : List UInt8 :=
  let n := c.toNat
  if n < 0x80 then [n.toUInt8]
  else if n < 0x800 then [(0xC0 + n / 0x40).toUInt8, (0x80 + n % 0x40).toUInt8]
  else if n < 0x10000 then
    [(0xE0 + n / 0x1000).toUInt8, (0x80 + n / 0x40 % 0x40).toUInt8, (0x80 + n % 0x40).toUInt8]
  else
    [(0xF0 + n / 0x40000).toUInt8, (0x80 + n / 0x1000 % 0x40).toUInt8,
      (0x80 + n / 0x40 % 0x40).toUInt8, (0x80 + n % 0x40).toUInt8]

def encode (cs : List Char) : List UInt8 := cs.flatMap encodeChar

inductive Piece where
  | char (c : Char)
  | bad (bytes : List UInt8) (reason : DecodeReason)
  deriving DecidableEq, Repr

/-- How many bytes follow a first byte, and the range allowed for the second byte. -/
def shape? (first : UInt8) : Option (Nat × UInt8 × UInt8) :=
  if first < 0x80 then some (0, 0x80, 0xBF)
  else if first < 0xC2 then none
  else if first < 0xE0 then some (1, 0x80, 0xBF)
  else if first = 0xE0 then some (2, 0xA0, 0xBF)
  else if first = 0xED then some (2, 0x80, 0x9F)
  else if first < 0xF0 then some (2, 0x80, 0xBF)
  else if first = 0xF0 then some (3, 0x90, 0xBF)
  else if first < 0xF4 then some (3, 0x80, 0xBF)
  else if first = 0xF4 then some (3, 0x80, 0x8F)
  else none

/-- The leading bytes that continue a character: at most `count`, the first of them in the given range. -/
def continuation : Nat → UInt8 → UInt8 → List UInt8 → List UInt8
  | 0, _, _, _ => []
  | _ + 1, _, _, [] => []
  | count + 1, low, high, byte :: rest =>
    if low ≤ byte ∧ byte ≤ high then byte :: continuation count 0x80 0xBF rest else []

/-- The bits that a first byte carries, by the number of bytes that follow. -/
def leadBits (first : UInt8) : Nat → Nat
  | 0 => first.toNat
  | 1 => first.toNat - 0xC0
  | 2 => first.toNat - 0xE0
  | _ => first.toNat - 0xF0

/-- The piece that starts with the given byte, and the number of further bytes that it takes. -/
def piece (first : UInt8) (rest : List UInt8) : Piece × Nat :=
  match shape? first with
  | none => (.bad [first] .invalidStart, 0)
  | some (count, low, high) =>
    let more := continuation count low high rest
    if more.length = count then
      let point := more.foldl (fun bits byte => bits * 0x40 + (byte.toNat - 0x80)) (leadBits first count)
      (.char (Char.ofNat point), count)
    else if more.length = rest.length then (.bad (first :: more) .unexpectedEnd, more.length)
    else (.bad (first :: more) .invalidContinuation, more.length)

def pieces : List UInt8 → List Piece
  | [] => []
  | first :: rest => (piece first rest).1 :: pieces (rest.drop (piece first rest).2)
termination_by bytes => bytes.length
decreasing_by simp only [List.length_drop, List.length_cons]; omega

/-- Read all, or tell the first fault; `position` is where the pieces start. -/
def charsFrom (position : Nat) : List Piece → Except DecodeFault (List Char)
  | [] => .ok []
  | .char c :: rest => (charsFrom (position + (encodeChar c).length) rest).map (c :: ·)
  | .bad bytes reason :: _ =>
    .error ⟨.utf8, position, bytes.length, bytes.headD 0, reason⟩

def decode (bytes : List UInt8) : Except DecodeFault (List Char) := charsFrom 0 (pieces bytes)

/-- Put the replacement character for each piece that is no character. -/
def decodeReplacing (bytes : List UInt8) : List Char :=
  (pieces bytes).map fun
    | .char c => c
    | .bad _ _ => '\uFFFD'

/-- Leave out each piece that is no character. -/
def decodeSkipping (bytes : List UInt8) : List Char :=
  (pieces bytes).filterMap fun
    | .char c => some c
    | .bad _ _ => none

def mark : List UInt8 := [0xEF, 0xBB, 0xBF]

def dropMark (bytes : List UInt8) : List UInt8 :=
  if mark.isPrefixOf bytes then bytes.drop mark.length else bytes

def ofString (s : String) : List UInt8 := encode s.toList

end UsingCensus.Text.Utf8
