import UsingCensus.FileTree.Follow
import UsingCensus.Text.Utf16

namespace UsingCensus

inductive SourceFault where
  | path (fault : PathFault)
  | decode (fault : Text.DecodeFault)
  deriving DecidableEq, Repr

def SourceFault.message : SourceFault → String
  | .path fault => fault.message
  | .decode fault => fault.message

namespace SourceText

open Text

/-- Read UTF-16 after its mark, which counts in the positions of faults. -/
def convert (order : Utf16.ByteOrder) (bytes : List UInt8) : Except DecodeFault (List UInt8) :=
  (Utf16.decodeFrom order order.mark.length bytes).map Utf8.encode

def normalise (bytes : List UInt8) : Except DecodeFault (List UInt8) :=
  if Utf8.mark.isPrefixOf bytes then .ok (bytes.drop Utf8.mark.length)
  else
    match bytes with
    | 0xFF :: 0xFE :: rest => convert .little rest
    | 0xFE :: 0xFF :: rest => convert .big rest
    | _ => .ok bytes

end SourceText

/-- The bytes of a source file. -/
def Surroundings.readSource (around : Surroundings) (path : Path) : Except SourceFault (List UInt8) :=
  match around.read path.toString with
  | .error fault => .error (.path fault)
  | .ok bytes =>
    match SourceText.normalise bytes with
    | .error fault => .error (.decode fault)
    | .ok source => .ok source

end UsingCensus
