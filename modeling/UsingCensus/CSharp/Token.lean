import UsingCensus.CSharp.Literal
import UsingCensus.Text.Blank
import UsingCensus.Text.Letters

/-!
The tokens of C# source. Nothing is lost: the texts of the tokens are the source. Preprocessor lines are
tokens, so the source of every branch is read. The code in the holes of a literal is read as code.
-/
namespace UsingCensus.CSharp

inductive TokenKind where
  | blank
  | comment
  | line
  | literal
  | word
  | mark
  deriving DecidableEq, Repr

namespace TokenKind

/-- What may stand between any two tokens. -/
def isTrivia : TokenKind → Bool
  | .blank => true
  | .comment => true
  | .line => true
  | _ => false

end TokenKind

structure Token where
  kind : TokenKind
  text : List Char
  deriving DecidableEq, Repr

namespace Token

def isTrivia (token : Token) : Bool := token.kind.isTrivia

def isWord (token : Token) (text : String) : Bool := token.kind = .word && token.text = text.toList

def isMark (token : Token) (text : String) : Bool := token.kind = .mark && token.text = text.toList

end Token

/-- ASCII blanks, no-break spaces and the ideographic space. -/
def isSpace (c : Char) : Bool :=
  c = ' ' || ('\t' ≤ c && c ≤ '\r') || c = '\u00a0' || c = '\ufeff' || c = '\u3000'

/-- Characters of names and numbers: beside the ASCII ones all that are no blanks. -/
def isWordChar (c : Char) : Bool :=
  c = '_' || ('a' ≤ c && c ≤ 'z') || ('A' ≤ c && c ≤ 'Z') || ('0' ≤ c && c ≤ '9') ||
    ('\u0080' ≤ c && !isSpace c && !Text.isBlank c)

def wordLength : List Char → Nat
  | '\\' :: 'u' :: rest => 2 + wordLength rest
  | '\\' :: 'U' :: rest => 2 + wordLength rest
  | c :: rest => if isWordChar c then 1 + wordLength rest else 0
  | [] => 0

/-- The length of a block comment after its first star. One that is not closed takes all the rest. -/
def blockLength : List Char → Nat
  | '*' :: '/' :: _ => 2
  | _ :: rest => 1 + blockLength rest
  | [] => 0

/-- The length of a preprocessor line. A backslash carries it on over a line break, and a block comment
ends it. -/
def lineLength : List Char → Nat
  | '\n' :: _ => 0
  | '/' :: '*' :: _ => 0
  | '\\' :: '\n' :: rest => 2 + lineLength rest
  | '\\' :: '\r' :: '\n' :: rest => 3 + lineLength rest
  | _ :: rest => 1 + lineLength rest
  | [] => 0

/-- A token that starts in code: how many characters follow its first one, and the literal with holes that
it opens, if it does. -/
structure Lexeme where
  kind : TokenKind
  more : Nat
  opened : Option LiteralStyle
  deriving DecidableEq, Repr

namespace Lexeme

def plain (kind : TokenKind) (more : Nat) : Lexeme := ⟨kind, more, none⟩

def ofSlash : List Char → Lexeme
  | '/' :: rest => plain .comment (1 + (rest.takeWhile fun c => c ≠ '\n' && c ≠ '\r').length)
  | '*' :: rest => plain .comment (1 + blockLength rest)
  | _ => plain .mark 0

def ofQuote (rest : List Char) : Lexeme :=
  let quotes := (rest.takeWhile (· = '"')).length
  if quotes < 2 then plain .literal (Stretch.regular false rest).length
  else plain .literal (quotes + (Stretch.raw (quotes + 1) 0 (rest.drop quotes)).length)

def ofAt : List Char → Lexeme
  | '"' :: rest => plain .literal (1 + (Stretch.verbatim false rest).length)
  | '$' :: '"' :: _ => ⟨.literal, 2, some .verbatim⟩
  | rest => if wordLength rest = 0 then plain .mark 0 else plain .word (wordLength rest)

def ofDollar (rest : List Char) : Lexeme :=
  let dollars := (rest.takeWhile (· = '$')).length
  let quotes := ((rest.drop dollars).takeWhile (· = '"')).length
  if 3 ≤ quotes then ⟨.literal, dollars + quotes, some (.raw quotes (dollars + 1))⟩
  else
    match rest with
    | '"' :: _ => ⟨.literal, 1, some .regular⟩
    | '@' :: '"' :: _ => ⟨.literal, 2, some .verbatim⟩
    | _ => plain .mark 0

def ofChars (c : Char) (rest : List Char) : Lexeme :=
  if isSpace c then plain .blank (rest.takeWhile isSpace).length
  else if c = '/' then ofSlash rest
  else if c = '#' then plain .line (lineLength rest)
  else if c = '"' then ofQuote rest
  else if c = '@' then ofAt rest
  else if c = '$' then ofDollar rest
  else if c = '\'' then
    match characterLength? rest with
    | some length => plain .literal length
    | none => plain .mark 0
  else if wordLength (c :: rest) ≠ 0 then plain .word (wordLength (c :: rest) - 1)
  else if c = ':' && rest.head? = some ':' then plain .mark 1
  else plain .mark 0

end Lexeme

/-- What is open around a character: the text of a literal, or a hole in it with so many brackets. -/
inductive Frame where
  | text (style : LiteralStyle)
  | hole (style : LiteralStyle) (brackets : Nat)
  deriving DecidableEq, Repr

/-- A token, by how many characters follow its first one, and the frames after it. -/
structure Cut where
  kind : TokenKind
  more : Nat
  frames : List Frame
  deriving DecidableEq, Repr

namespace Cut

def ofLexeme (lexeme : Lexeme) (frames : List Frame) : Cut :=
  ⟨lexeme.kind, lexeme.more, match lexeme.opened with
    | some style => .text style :: frames
    | none => frames⟩

def bracketsAfter (brackets : Nat) (c : Char) : Nat :=
  if ['(', '[', '{'].contains c then brackets + 1
  else if [')', ']', '}'].contains c then brackets - 1
  else brackets

/-- A single colon between no brackets: what follows is a format. -/
def startsFormat (brackets : Nat) (c : Char) (rest : List Char) : Bool :=
  brackets = 0 && c = ':' && rest.head? ≠ some ':'

def next : List Frame → Char → List Char → Cut
  | [], c, rest => ofLexeme (Lexeme.ofChars c rest) []
  | .text style :: outer, c, rest =>
    match Stretch.ofStyle style (c :: rest) with
    | ⟨0, _⟩ => next outer c rest
    | ⟨more + 1, .opened⟩ => ⟨.literal, more, .hole style 0 :: outer⟩
    | ⟨more + 1, _⟩ => ⟨.literal, more, outer⟩
  | .hole style brackets :: outer, c, rest =>
    if brackets = 0 && c = '}' then ⟨.literal, style.braces - 1, .text style :: outer⟩
    else if startsFormat brackets c rest then
      ⟨.literal, (rest.takeWhile fun d => d ≠ '}' && d ≠ '"').length, .hole style brackets :: outer⟩
    else ofLexeme (Lexeme.ofChars c rest) (.hole style (bracketsAfter brackets c) :: outer)

end Cut

/-- The tokens of a source, seen from inside the frames. -/
def tokensFrom (frames : List Frame) (source : List Char) : List Token :=
  match source with
  | [] => []
  | c :: rest =>
    ⟨(Cut.next frames c rest).kind, c :: rest.take (Cut.next frames c rest).more⟩ ::
      tokensFrom (Cut.next frames c rest).frames (rest.drop (Cut.next frames c rest).more)
termination_by source.length
decreasing_by simp only [List.length_drop, List.length_cons]; omega

def tokens (source : List Char) : List Token := tokensFrom [] source

theorem flatMap_text_tokensFrom (frames : List Frame) (source : List Char) :
    (tokensFrom frames source).flatMap Token.text = source := by
  fun_induction tokensFrom frames source with
  | case1 => rfl
  | case2 frames c rest ih => simp [ih]

end UsingCensus.CSharp
