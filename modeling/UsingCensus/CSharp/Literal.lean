namespace UsingCensus.CSharp

/-- How the text of a literal is written. Raw text is framed by its number of quotes, and its holes by its
number of dollar signs. -/
inductive LiteralStyle where
  | regular
  | verbatim
  | raw (quotes dollars : Nat)
  deriving DecidableEq, Repr

namespace LiteralStyle

/-- How many braces close a hole. -/
def braces : LiteralStyle → Nat
  | .raw _ dollars => dollars
  | _ => 1

end LiteralStyle

inductive TextEnd where
  | closed
  | opened
  | broken
  deriving DecidableEq, Repr

/-- A stretch of text: its length, with the mark that ends it. -/
structure Stretch where
  length : Nat
  ending : TextEnd
  deriving DecidableEq, Repr

namespace Stretch

def after (count : Nat) (stretch : Stretch) : Stretch := { stretch with length := count + stretch.length }

/-- Text with escapes on one line. Doubled braces are text. -/
def regular (holes : Bool) : List Char → Stretch
  | [] => ⟨0, .broken⟩
  | '"' :: _ => ⟨1, .closed⟩
  | '\n' :: _ => ⟨0, .broken⟩
  | '\\' :: '\n' :: _ => ⟨1, .broken⟩
  | '\\' :: _ :: rest => after 2 (regular holes rest)
  | '{' :: '{' :: rest => after 2 (regular holes rest)
  | '{' :: rest => if holes then ⟨1, .opened⟩ else after 1 (regular holes rest)
  | _ :: rest => after 1 (regular holes rest)

/-- Text over any number of lines. Doubled quotes are text. -/
def verbatim (holes : Bool) : List Char → Stretch
  | [] => ⟨0, .broken⟩
  | '"' :: '"' :: rest => after 2 (verbatim holes rest)
  | '"' :: _ => ⟨1, .closed⟩
  | '{' :: '{' :: rest => after 2 (verbatim holes rest)
  | '{' :: rest => if holes then ⟨1, .opened⟩ else after 1 (verbatim holes rest)
  | _ :: rest => after 1 (verbatim holes rest)

def startsWith (count : Nat) (c : Char) (cs : List Char) : Bool := (List.replicate count c).isPrefixOf cs

/-- Text up to as many quotes as opened it. Of a run of braces the last ones open a hole. -/
def raw (quotes dollars : Nat) : List Char → Stretch
  | [] => ⟨0, .broken⟩
  | c :: rest =>
    if startsWith quotes '"' (c :: rest) then ⟨quotes, .closed⟩
    else if dollars ≠ 0 && startsWith dollars '{' (c :: rest) && !startsWith dollars '{' rest then
      ⟨dollars, .opened⟩
    else after 1 (raw quotes dollars rest)

/-- The stretch of a literal with holes. -/
def ofStyle : LiteralStyle → List Char → Stretch
  | .regular => regular true
  | .verbatim => verbatim true
  | .raw quotes dollars => raw quotes dollars

end Stretch

/-- The length of a character literal after its first quote, if it is closed on its line. -/
def characterLength? : List Char → Option Nat
  | '\\' :: _ :: rest =>
    let escape := rest.takeWhile fun c => c ≠ '\'' && c ≠ '\n'
    if (rest.drop escape.length).head? = some '\'' then some (escape.length + 3) else none
  | c :: '\'' :: _ => if c = '\'' || c = '\n' then none else some 2
  | _ => none

end UsingCensus.CSharp
