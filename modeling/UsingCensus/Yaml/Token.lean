import UsingCensus.Yaml.Property

/-!
The tokens of a YAML text. Indentation opens and closes block collections. A key that is not announced by
a question mark is known only when its colon is met, so the place where it may have begun is kept, one
for each collection that is open.
-/
namespace UsingCensus.Yaml

inductive Token where
  | directive (body : Directive)
  | documentStart
  | documentEnd
  | streamEnd
  | blockSequenceStart
  | blockMappingStart
  | blockEnd
  | flowSequenceStart
  | flowSequenceEnd
  | flowMappingStart
  | flowMappingEnd
  | blockEntry
  | flowEntry
  | key
  | value
  | reference (anchor : String)
  | anchor (name : String)
  | tag (written : WrittenTag)
  | scalar (text : String) (plain : Bool)
  deriving DecidableEq, Repr

/-- Where a key without a question mark may have begun: before the token at `position`. A required one
has to be a key. -/
structure Candidate where
  position : Nat
  required : Bool
  index : Nat
  line : Nat
  column : Nat
  deriving DecidableEq, Repr

/-- The longest key that its colon can make one. -/
def keyLimit : Nat := 1024

/-- `indents` are the columns of the open block collections, and `outer` the candidates outside the
innermost flow collection, both from the inside out. -/
structure Scanner where
  cursor : Cursor
  tokens : List Token
  indents : List Nat
  candidate : Option Candidate
  outer : List (Option Candidate)
  allowsKey : Bool
  deriving DecidableEq, Repr

namespace Scanner

def start (text : List Char) : Scanner := ⟨(Cursor.start text).skipMark, [], [], none, [], true⟩

def inFlow (scanner : Scanner) : Bool := !scanner.outer.isEmpty

def contentIndent (scanner : Scanner) : Nat :=
  match scanner.indents with
  | indent :: _ => indent + 1
  | [] => 0

def emit (scanner : Scanner) (length : Nat) (token : Token) : Scanner :=
  { scanner with cursor := scanner.cursor.skip length, tokens := scanner.tokens ++ [token] }

def allowKey (scanner : Scanner) (allowed : Bool) : Scanner := { scanner with allowsKey := allowed }

def isStale (cursor : Cursor) (candidate : Candidate) : Bool :=
  candidate.line ≠ cursor.line || cursor.index - candidate.index > keyLimit

/-- Forget the candidates that can be no keys any more. -/
def dropStale (scanner : Scanner) : Except Fault Scanner :=
  let stale := isStale scanner.cursor
  if (scanner.candidate :: scanner.outer).any fun c => c.any fun c => stale c && c.required then
    .error .malformed
  else
    .ok { scanner with
      candidate := scanner.candidate.filter (!stale ·)
      outer := scanner.outer.map (·.filter (!stale ·)) }

def dropCandidate (scanner : Scanner) : Except Fault Scanner :=
  if scanner.candidate.any Candidate.required then .error .malformed
  else .ok { scanner with candidate := none }

/-- A key may begin here. In block collections it must if the column is that of the innermost one. -/
def saveCandidate (scanner : Scanner) : Except Fault Scanner :=
  if !scanner.allowsKey then .ok scanner
  else
    let cursor := scanner.cursor
    let required := !scanner.inFlow && scanner.indents.head? = some cursor.column
    scanner.dropCandidate.map fun scanner =>
      { scanner with
        candidate := some ⟨scanner.tokens.length, required, cursor.index, cursor.line, cursor.column⟩ }

def close (scanner : Scanner) (count : Nat) : Scanner :=
  { scanner with
    tokens := scanner.tokens ++ List.replicate count .blockEnd
    indents := scanner.indents.drop count }

/-- Close the block collections that are indented more than the cursor. -/
def unwind (scanner : Scanner) : Scanner :=
  if scanner.inFlow then scanner
  else scanner.close (scanner.indents.takeWhile (scanner.cursor.column < ·)).length

def unwindAll (scanner : Scanner) : Scanner :=
  if scanner.inFlow then scanner else scanner.close scanner.indents.length

def isDeeper (scanner : Scanner) (column : Nat) : Bool := scanner.indents.head?.all (· < column)

/-- Open a block collection at the cursor, unless one is open there. -/
def openBlock (scanner : Scanner) (token : Token) : Scanner :=
  if scanner.isDeeper scanner.cursor.column then
    { scanner.emit 0 token with indents := scanner.cursor.column :: scanner.indents }
  else scanner

/-- The length of spaces, comments and line breaks, and whether a line is broken. -/
def gap : Bool → List Char → Nat × Bool
  | _, [] => (0, false)
  | inComment, c :: rest =>
    if isBreak c then ((gap false rest).1 + 1, true)
    else if inComment || c = ' ' || c = '#' then
      ((gap (inComment || c = '#') rest).1 + 1, (gap (inComment || c = '#') rest).2)
    else (0, false)

def prepare (scanner : Scanner) : Except Fault Scanner :=
  let (length, broken) := gap false scanner.cursor.rest
  let scanner := { scanner with
    cursor := scanner.cursor.skip length
    allowsKey := scanner.allowsKey || (broken && !scanner.inFlow) }
  scanner.dropStale.map unwind

def fetchStreamEnd (scanner : Scanner) : Except Fault Scanner :=
  scanner.unwindAll.dropCandidate.map (·.emit 0 .streamEnd)

/-- Directives and the marks between documents end all block collections. -/
def fetchOutside (scanner : Scanner) (length : Nat) (token : Token) : Except Fault Scanner :=
  scanner.unwindAll.dropCandidate.map fun scanner => (scanner.emit length token).allowKey false

def fetchDirective (scanner : Scanner) (rest : List Char) : Except Fault Scanner := do
  let scanner ← scanner.unwindAll.dropCandidate
  let (body, n) ← Yaml.directive rest
  return (scanner.emit (n + 1) (.directive body)).allowKey false

def fetchFlowStart (scanner : Scanner) (token : Token) : Except Fault Scanner :=
  scanner.saveCandidate.map fun scanner =>
    { (scanner.emit 1 token).allowKey true with
      candidate := none
      outer := scanner.candidate :: scanner.outer }

def fetchFlowEnd (scanner : Scanner) (token : Token) : Except Fault Scanner :=
  match scanner.outer with
  | [] => .error .malformed
  | candidate :: outer =>
    scanner.dropCandidate.map fun scanner =>
      { (scanner.emit 1 token).allowKey false with candidate := candidate, outer := outer }

def fetchFlowEntry (scanner : Scanner) : Except Fault Scanner :=
  scanner.dropCandidate.map fun scanner => (scanner.emit 1 .flowEntry).allowKey true

/-- Indicators open a block collection where keys are allowed. -/
def openFor (scanner : Scanner) (token : Token) : Except Fault Scanner :=
  if scanner.inFlow then .ok scanner
  else if scanner.allowsKey then .ok (scanner.openBlock token)
  else .error .malformed

def fetchBlockEntry (scanner : Scanner) : Except Fault Scanner := do
  let scanner ← (← scanner.openFor .blockSequenceStart).dropCandidate
  return (scanner.emit 1 .blockEntry).allowKey true

def fetchKey (scanner : Scanner) : Except Fault Scanner := do
  let scanner ← (← scanner.openFor .blockMappingStart).dropCandidate
  return (scanner.emit 1 .key).allowKey !scanner.inFlow

def insertKey (scanner : Scanner) (candidate : Candidate) : Scanner :=
  let opens := !scanner.inFlow && scanner.isDeeper candidate.column
  let inserted := if opens then [Token.blockMappingStart, .key] else [.key]
  { scanner with
    tokens := scanner.tokens.take candidate.position ++ inserted ++ scanner.tokens.drop candidate.position
    indents := if opens then candidate.column :: scanner.indents else scanner.indents
    candidate := none }

def fetchValue (scanner : Scanner) : Except Fault Scanner :=
  match scanner.candidate with
  | some candidate => .ok (((scanner.insertKey candidate).emit 1 .value).allowKey false)
  | none =>
    (scanner.openFor .blockMappingStart).map fun scanner =>
      (scanner.emit 1 .value).allowKey !scanner.inFlow

/-- A token that may begin a key. -/
def fetchInline (scanner : Scanner) (token : Option (Token × Nat)) : Except Fault Scanner :=
  match token with
  | none => .error .malformed
  | some (token, length) =>
    scanner.saveCandidate.map fun scanner => (scanner.emit length token).allowKey false

def fetchBlockScalar (scanner : Scanner) (folded : Bool) (rest : List Char) : Except Fault Scanner :=
  match scanner.dropCandidate, blockScalar? folded (max 1 scanner.contentIndent) rest with
  | .ok scanner, some (text, n) =>
    .ok ((scanner.emit (n + 1) (.scalar (String.ofList text) false)).allowKey true)
  | _, _ => .error .malformed

def fetchQuoted (scanner : Scanner) (double : Bool) (rest : List Char) : Except Fault Scanner := do
  let scanner ← scanner.saveCandidate
  let (text, n) ← quotedScalar double rest
  return (scanner.emit (n + 1) (.scalar (String.ofList text) false)).allowKey false

def fetchPlain (scanner : Scanner) (cs : List Char) : Except Fault Scanner :=
  let plain := plainScalar scanner.inFlow scanner.contentIndent cs
  scanner.saveCandidate.map fun scanner =>
    (scanner.emit plain.length (.scalar (String.ofList plain.text) true)).allowKey plain.crossed

/-- Characters that start no plain scalar, unless a dash, question mark or colon before a word. -/
def startsPlain (scanner : Scanner) (c : Char) (next : Option Char) : Bool :=
  !(endsWord (some c) || "-?:,[]\x7b\x7d#&*!|>'\"%@`".toList.contains c) ||
    (!endsWord next && (c = '-' || (!scanner.inFlow && (c = '?' || c = ':'))))

/-- Indicators that count as such before a blank or in a flow collection. -/
def isIndicator (scanner : Scanner) (next : Option Char) : Bool := scanner.inFlow || endsWord next

def fetch (scanner : Scanner) (c : Char) (rest : List Char) : Except Fault Scanner :=
  if scanner.cursor.column = 0 && c = '%' then
    scanner.fetchDirective rest
  else if scanner.cursor.column = 0 && c = '-' && isSeparator (c :: rest) then
    scanner.fetchOutside 3 .documentStart
  else if scanner.cursor.column = 0 && c = '.' && isSeparator (c :: rest) then
    scanner.fetchOutside 3 .documentEnd
  else if c = '[' then scanner.fetchFlowStart .flowSequenceStart
  else if c = '{' then scanner.fetchFlowStart .flowMappingStart
  else if c = ']' then scanner.fetchFlowEnd .flowSequenceEnd
  else if c = '}' then scanner.fetchFlowEnd .flowMappingEnd
  else if c = ',' then scanner.fetchFlowEntry
  else if c = '-' && endsWord rest.head? then scanner.fetchBlockEntry
  else if c = '?' && scanner.isIndicator rest.head? then scanner.fetchKey
  else if c = ':' && scanner.isIndicator rest.head? then scanner.fetchValue
  else if c = '*' then
    scanner.fetchInline ((anchorName? rest).map fun (name, n) => (.reference name, n + 1))
  else if c = '&' then
    scanner.fetchInline ((anchorName? rest).map fun (name, n) => (.anchor name, n + 1))
  else if c = '!' then
    scanner.fetchInline ((writtenTag? rest).map fun (tag, n) => (.tag tag, n + 1))
  else if c = '|' && !scanner.inFlow then scanner.fetchBlockScalar false rest
  else if c = '>' && !scanner.inFlow then scanner.fetchBlockScalar true rest
  else if c = '\'' then scanner.fetchQuoted false rest
  else if c = '"' then scanner.fetchQuoted true rest
  else if scanner.startsPlain c rest.head? then scanner.fetchPlain (c :: rest)
  else .error .malformed

/-- The tokens that are settled: those before the first place where a key may still turn out to have begun. -/
def settled (scanner : Scanner) : List Token :=
  let candidates := (scanner.candidate :: scanner.outer).filterMap (·.filter (!isStale scanner.cursor ·))
  scanner.tokens.take (candidates.foldl (fun count candidate => min count candidate.position) scanner.tokens.length)

/-- The tokens up to the end or, as far as they are settled, up to the first fault. Every token but the last
takes characters. -/
def run (scanner : Scanner) : List Token × Option Fault :=
  match scanner.prepare with
  | .error fault => (scanner.settled, some fault)
  | .ok ready =>
    match ready.cursor.rest with
    | [] =>
      match ready.fetchStreamEnd with
      | .ok last => (last.tokens, none)
      | .error fault => (scanner.settled, some fault)
    | c :: rest =>
      match ready.fetch c rest with
      | .error fault => (scanner.settled, some fault)
      | .ok next =>
        if next.cursor.rest.length < scanner.cursor.rest.length then next.run
        else (next.settled, some .malformed)
termination_by scanner.cursor.rest.length

end Scanner
end UsingCensus.Yaml
