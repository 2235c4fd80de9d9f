/-!
Wildcard patterns over whole texts: `*` stands for any run of characters, `?` for one, and brackets for
one character of a class. The glyphs are the parsed form; `Matches` says what they stand for and
`accepts` decides it in one pass over the pattern.
-/
namespace UsingCensus

/-- A range of a class; a single character is a range of its own. -/
structure CharRange where
  low : Char
  high : Char
  deriving DecidableEq, Repr

def CharRange.single (c : Char) : CharRange := ⟨c, c⟩

inductive Glyph where
  | any
  | one
  | oneOf (inverted : Bool) (ranges : List CharRange)
  | literal (c : Char)
  deriving DecidableEq, Repr

def Glyph.admits : Glyph → Char → Bool
  | .any, _ => true
  | .one, _ => true
  | .oneOf inverted ranges, c => ranges.any (fun range => range.low ≤ c && c ≤ range.high) != inverted
  | .literal d, c => c = d

abbrev Wildcard := List Glyph

namespace Wildcard

/-- A pattern matches a text that falls into the runs and characters its glyphs stand for. -/
inductive Matches : Wildcard → List Char → Prop where
  | nil : Matches [] []
  | none {rest : Wildcard} {cs : List Char} : Matches rest cs → Matches (.any :: rest) cs
  | more {rest : Wildcard} {c : Char} {cs : List Char} :
      Matches (.any :: rest) cs → Matches (.any :: rest) (c :: cs)
  | single {glyph : Glyph} {rest : Wildcard} {c : Char} {cs : List Char} :
      glyph ≠ .any → glyph.admits c = true → Matches rest cs → Matches (glyph :: rest) (c :: cs)

/-- For each ending of a text, whether the empty pattern matches it. -/
def emptyRow : List Char → List Bool
  | [] => [true]
  | _ :: cs => false :: emptyRow cs

/-- For each ending of a text, whether a glyph followed by a pattern matches it, given the pattern's own
answers. -/
def row (glyph : Glyph) : List Char → List Bool → List Bool
  | [], after => [glyph = .any && after.headD false]
  | c :: cs, after =>
    let below := row glyph cs after.tail
    (if glyph = .any then after.headD false || below.headD false
      else glyph.admits c && after.tail.headD false) :: below

def accepts (pattern : Wildcard) (cs : List Char) : Bool :=
  (pattern.foldr (fun glyph after => row glyph cs after) (emptyRow cs)).headD false

end Wildcard
end UsingCensus
