import UsingCensus.CSharp.Syntax
import UsingCensus.CSharp.Token
import UsingCensus.Text.Utf8

/-!
Using directives. A directive runs from `using` to the next semicolon and holds either modifiers and a
name, or a new name, an equals sign and a type. A `using` that goes on in any other way is a statement.
-/
namespace UsingCensus.CSharp

/-- Words for types that belong to the language. -/
def predefinedTypes : List String :=
  ["bool", "byte", "char", "decimal", "double", "float", "int", "long", "nint", "nuint", "object",
    "sbyte", "short", "string", "uint", "ulong", "ushort", "void"]

/-- Words that name no namespace or type when they stand alone after an equals sign. -/
def namelessWords : List String := "var" :: predefinedTypes

/-- What part of a name has been read. -/
inductive NameState where
  | separator
  | part
  | arguments (depth : Nat)
  | applied
  deriving DecidableEq, Repr

namespace NameState

/-- Words that start with a digit are numbers. -/
def isIdentifier (token : Token) : Bool :=
  token.kind = .word && !(token.text.head?.any fun c => '0' ≤ c && c ≤ '9')

def isSeparator (token : Token) : Bool := token.isMark "." || token.isMark "::"

/-- Marks in the types between angle brackets. -/
def typeMarks : List String := [".", "::", ":", ",", "?", "*", "[", "]", "(", ")"]

def isTypeToken (token : Token) : Bool := token.kind = .word || typeMarks.any token.isMark

/-- Go on with one token that is no trivia. -/
def step (state : NameState) (token : Token) : Option NameState :=
  match state with
  | .separator => if isIdentifier token then some .part else none
  | .part =>
    if isSeparator token then some .separator
    else if token.isMark "<" then some (.arguments 0)
    else none
  | .arguments depth =>
    if token.isMark "<" then some (.arguments (depth + 1))
    else if token.isMark ">" then
      match depth with
      | 0 => some .applied
      | fewer + 1 => some (.arguments fewer)
    else if isTypeToken token then some (.arguments depth)
    else none
  | .applied => if isSeparator token then some .separator else none

def isComplete : NameState → Bool
  | .part => true
  | .applied => true
  | _ => false

end NameState

/-- Are the tokens a name: identifiers, possibly with type arguments, between separators? -/
def isName (tokens : List Token) : Bool :=
  ((tokens.filter (!·.isTrivia)).foldlM NameState.step .separator).any NameState.isComplete

namespace Token

/-- The node of a single token. Blanks leave none. -/
def leaf? (token : Token) : Option SyntaxTree :=
  let text := String.ofList token.text
  match token.kind with
  | .blank => none
  | .comment => some (.node .comment text [])
  | .line => some (.node .line text [])
  | .literal => some (.node .other text [])
  | .word => some (.node .mark text [])
  | .mark => some (.node .mark text [])

end Token

/-- What stands between `using` and the semicolon. The target starts and ends with no trivia. -/
structure DirectiveBody where
  header : List Token
  target : List Token
  trailer : List Token
  renames : Bool
  deriving DecidableEq, Repr

namespace DirectiveBody

def splitTrailer (tokens : List Token) : List Token × List Token :=
  let trailer := (tokens.reverse.takeWhile Token.isTrivia).reverse
  (tokens.take (tokens.length - trailer.length), trailer)

def isModifier (token : Token) : Bool := token.isWord "static" || token.isWord "unsafe"

def isRenaming (tokens : List Token) : Bool :=
  match tokens.filter (!·.isTrivia) with
  | [name] => NameState.isIdentifier name
  | [modifier, name] => modifier.isWord "unsafe" && NameState.isIdentifier name
  | _ => false

def ofTokens (tokens : List Token) : DirectiveBody :=
  let before := tokens.takeWhile (!·.isMark "=")
  let after := tokens.dropWhile (!·.isMark "=")
  match after with
  | equals :: type =>
    let (target, trailer) := splitTrailer (type.dropWhile Token.isTrivia)
    ⟨before ++ equals :: type.takeWhile Token.isTrivia, target, trailer, true⟩
  | [] =>
    let isHeader := fun (token : Token) => token.isTrivia || isModifier token
    let (target, trailer) := splitTrailer (tokens.dropWhile isHeader)
    ⟨tokens.takeWhile isHeader, target, trailer, false⟩

def isDirective (body : DirectiveBody) : Bool :=
  if body.renames then isRenaming (body.header.takeWhile (!·.isMark "=")) && body.target ≠ []
  else isName body.target

/-- A type that is no name: a word of the language, or put together from other types. -/
def isNameless (body : DirectiveBody) : Bool :=
  body.renames && (!isName body.target || namelessWords.any fun word => body.target.map Token.text = [word.toList])

def targetNode (body : DirectiveBody) : SyntaxTree :=
  .node (if body.isNameless then .other else .name) (String.ofList (body.target.flatMap Token.text)) []

def node (body : DirectiveBody) : SyntaxTree :=
  .node .directive "" (.node .mark "using" [] :: body.header.filterMap Token.leaf? ++
    body.targetNode :: body.trailer.filterMap Token.leaf? ++ [.node .mark ";" []])

end DirectiveBody

def isSemicolon (token : Token) : Bool := token.isMark ";"

def directive? (tokens : List Token) : Option SyntaxTree :=
  if tokens.any isSemicolon then
    let body := DirectiveBody.ofTokens (tokens.takeWhile (!isSemicolon ·))
    if body.isDirective then some body.node else none
  else none

def afterSemicolon (tokens : List Token) : List Token := (tokens.dropWhile (!isSemicolon ·)).tail

theorem length_afterSemicolon_le (tokens : List Token) :
    (afterSemicolon tokens).length ≤ tokens.length := by
  have shorter := (List.dropWhile_sublist (fun token => !isSemicolon token) (l := tokens)).length_le
  rw [afterSemicolon, List.length_tail]
  omega

/-- The directives and all other tokens of a source, in order. -/
def nodes (tokens : List Token) : List SyntaxTree :=
  match tokens with
  | [] => []
  | token :: rest =>
    match (if token.isWord "using" then directive? rest else none) with
    | some directive => directive :: nodes (afterSemicolon rest)
    | none => token.leaf?.toList ++ nodes rest
termination_by tokens.length
decreasing_by
  · have := length_afterSemicolon_le rest
    simp only [List.length_cons]
    omega
  · simp

def SyntaxTree.ofSource (source : List Char) : SyntaxTree := .node .other "" (nodes (tokens source))

/-- The names that a source file imports, in document order. Bytes that are no UTF-8 count for nothing. -/
def importsOfBytes (bytes : List UInt8) : List String :=
  (SyntaxTree.ofSource (Text.Utf8.decodeSkipping bytes)).imports

end UsingCensus.CSharp
