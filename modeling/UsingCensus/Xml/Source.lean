import UsingCensus.Text.Lines
import UsingCensus.Text.Utf16
import UsingCensus.Text.Utf8
import UsingCensus.Xml.Basic
import UsingCensus.Xml.CodePage
import UsingCensus.Xml.Declaration

namespace UsingCensus.Xml

inductive Charset where
  | utf8
  | ascii
  | latin
  | tilde
  | table (page : CodePage)

/-- The characters, if every byte stands for one. -/
def Charset.decode? : Charset → List UInt8 → Option Chars
  | .utf8, bytes => (Text.Utf8.decode bytes).toOption
  | .ascii, bytes => if bytes.all (· < 0x80) then some (bytes.map fun b => Char.ofNat b.toNat) else none
  | .tilde, bytes =>
    if bytes.all fun b => b < 0x80 && b != 0x7E then some (bytes.map fun b => Char.ofNat b.toNat) else none
  | .latin, bytes => some (bytes.map fun b => Char.ofNat b.toNat)
  | .table page, bytes => bytes.mapM page.char?

def encodingFault (name : String) : EncodingFault :=
  match foldName name with
  | "idna" => .strict name "Unsupported error handling replace"
  | "undefined" => .strict name "undefined encoding"
  | "punycode" => .undecodable 82
  | _ => if isNamed notTextNames name then .notText name else .unknown name

/-- The character set with a declared name, for a document of one byte a unit. -/
def charset (name : String) : Except Fault Charset :=
  match Text.lowerText name with
  | "utf-8" => .ok .utf8
  | "us-ascii" => .ok .ascii
  | "iso-8859-1" => .ok .latin
  | "utf-16" => .error .malformed
  | "utf-16be" => .error .malformed
  | "utf-16le" => .error .malformed
  | _ =>
    match CodePage.find? name with
    | some page => .ok (.table page)
    | none =>
      if isNamed multiByteNames name then .error (.encoding .multiByte)
      else if isNamed foreignNames name then .error .malformed
      else if isNamed tildeNames name then .ok .tilde
      else .error (.encoding (encodingFault name))

/-- A document of two bytes a unit must not claim another encoding. -/
def admitsWide (order : Text.Utf16.ByteOrder) (name : String) : Except Fault Unit :=
  let lowered := Text.lowerText name
  let ordered := match order with
    | .little => "utf-16le"
    | .big => "utf-16be"
  if lowered = "utf-16" ∨ lowered = ordered then .ok ()
  else
    match charset name with
    | .ok _ => .error .malformed
    | .error fault => .error fault

/-- The byte order of a UTF-16 document, and its bytes without the mark. -/
def wide? : List UInt8 → Option (Text.Utf16.ByteOrder × List UInt8)
  | 0xFE :: 0xFF :: rest => some (.big, rest)
  | 0xFF :: 0xFE :: rest => some (.little, rest)
  | 0x00 :: rest => some (.big, 0x00 :: rest)
  | first :: 0x00 :: rest => some (.little, first :: 0x00 :: rest)
  | _ => none

/-- Whether the document stands alone, and the characters after the declaration, with unified line ends. -/
def characters (bytes : List UInt8) : Except Fault (Bool × Chars) := do
  let (declaration, decoded) ←
    match wide? bytes with
    | some (order, rest) =>
      match Text.Utf16.decodeFrom order 0 rest with
      | .error _ => throw Fault.malformed
      | .ok cs =>
        let some (declaration, after) := declaration? cs | throw Fault.malformed
        if let some name := declaration.encoding then admitsWide order name
        pure (declaration, after)
    | none =>
      let rest := Text.Utf8.dropMark bytes
      let some (declaration, after) := declaration? (rest.map fun b => Char.ofNat b.toNat)
        | throw Fault.malformed
      let set ← match declaration.encoding with
        | some name => charset name
        | none => pure .utf8
      let some cs := set.decode? (rest.drop (rest.length - after.length)) | throw Fault.malformed
      pure (declaration, cs)
  if decoded.all isLegal then return (declaration.standsAlone, Text.unifyLineEnds decoded) else throw .malformed

end UsingCensus.Xml
