import UsingCensus.Text.Letters
import UsingCensus.Yaml.Cursor
import UsingCensus.Yaml.Fault

namespace UsingCensus.Yaml

/-! Plain scalars -/

/-- Marks that end a plain scalar in a flow collection. -/
def isFlowMark (c : Char) : Bool := c = ',' || c = '?' || c = '[' || c = ']' || c = '{' || c = '}'

/-- After a colon: is the plain scalar before it a key? -/
def endsKey (inFlow : Bool) (next : Option Char) : Bool :=
  endsWord next || (inFlow && next.any fun c => isFlowMark c && c ≠ '?')

def plainRun (inFlow : Bool) : List Char → Nat
  | [] => 0
  | c :: rest =>
    if endsWord (some c) || (c = ':' && endsKey inFlow rest.head?) || (inFlow && isFlowMark c) then 0
    else 1 + plainRun inFlow rest

/-- What stands between two runs, folded: nothing if the scalar ends. `column` is set after a break. -/
structure PlainGap where
  fold : List Char
  length : Nat
  column : Option Nat
  deriving DecidableEq, Repr

/-- Spaces and line breaks from a column on. Nothing is folded before a separator of documents. -/
def plainBreaks : Nat → List Char → Option (List Char) × Nat × Nat
  | column, [] => (some [], 0, column)
  | column, c :: rest =>
    if c = ' ' then
      let (breaks, length, last) := plainBreaks (column + 1) rest
      (breaks, length + 1, last)
    else if isBreak c then
      if isSeparator rest then (none, 1, 0)
      else
        let (breaks, length, last) := plainBreaks 0 rest
        (breaks.map (breakText c :: ·), length + 1, last)
    else (some [], 0, column)

/-- Fold a line break together with the breaks after it. -/
def foldBreaks (first : Char) (breaks : List Char) : List Char :=
  if breakText first ≠ '\n' then first :: breaks
  else if breaks = [] then [' ']
  else breaks

def plainGap (cs : List Char) : PlainGap :=
  let spaces := cs.takeWhile (· = ' ')
  match cs.drop spaces.length with
  | [] => ⟨spaces, spaces.length, none⟩
  | c :: rest =>
    if !isBreak c then ⟨spaces, spaces.length, none⟩
    else if isSeparator rest then ⟨[], spaces.length + 1, some 0⟩
    else
      match plainBreaks 0 rest with
      | (none, length, column) => ⟨[], spaces.length + 1 + length, some column⟩
      | (some breaks, length, column) => ⟨foldBreaks c breaks, spaces.length + 1 + length, some column⟩

/-- A plain scalar with the blanks after it; `crossed` tells that those hold a line break. -/
structure PlainScalar where
  text : List Char
  length : Nat
  crossed : Bool
  deriving DecidableEq, Repr

/-- Does a plain scalar end after a gap? -/
def endsPlain (inFlow : Bool) (indent : Nat) (gap : PlainGap) (next : Option Char) : Bool :=
  gap.fold = [] || next = some '#' || (!inFlow && gap.column.any (· < indent))

/-- Runs and gaps, as long as lines are indented enough. A comment starts no run. -/
def plainScalar (inFlow : Bool) (indent : Nat) (cs : List Char) : PlainScalar :=
  match cs with
  | [] => ⟨[], 0, false⟩
  | c :: rest =>
    if c = '#' ∨ plainRun inFlow (c :: rest) = 0 then ⟨[], 0, false⟩
    else
      let run := rest.take (plainRun inFlow (c :: rest) - 1)
      let gap := plainGap (rest.drop run.length)
      let after := rest.drop (run.length + gap.length)
      let length := 1 + run.length + gap.length
      if endsPlain inFlow indent gap after.head? then ⟨c :: run, length, gap.column.isSome⟩
      else
        let more := plainScalar inFlow indent after
        if more.length = 0 then ⟨c :: run, length, gap.column.isSome⟩
        else ⟨c :: run ++ gap.fold ++ more.text, length + more.length, more.crossed⟩
termination_by cs.length
decreasing_by simp only [List.length_drop, List.length_cons]; omega

/-! Quoted scalars -/

/-- A part of a quoted scalar: its text and how many characters follow its first one; or the end. -/
inductive QuotedPiece where
  | text (chars : List Char) (more : Nat)
  | close
  deriving DecidableEq, Repr

/-- The breaks at the start of a line of a quoted scalar, with the length of the blanks around them. No
separator of documents may stand there. -/
def quotedBreaks : Bool → List Char → Except Fault (List Char × Nat)
  | _, [] => .ok ([], 0)
  | atStart, c :: rest =>
    if atStart && isSeparator (c :: rest) then .error .malformed
    else if c = ' ' || c = '\t' then (quotedBreaks false rest).map fun (breaks, n) => (breaks, n + 1)
    else if isBreak c then (quotedBreaks true rest).map fun (breaks, n) => (breakText c :: breaks, n + 1)
    else .ok ([], 0)

/-- Blanks inside a quoted scalar: kept on one line, folded where lines break. -/
def quotedBlanks (cs : List Char) : Except Fault (List Char × Nat) :=
  let blanks := cs.takeWhile fun c => c = ' ' || c = '\t'
  match cs.drop blanks.length with
  | [] => .error .malformed
  | c :: rest =>
    if isBreak c then
      (quotedBreaks true rest).map fun (breaks, n) => (foldBreaks c breaks, blanks.length + 1 + n)
    else .ok (blanks, blanks.length)

/-- Escapes of one character. -/
def namedEscapes : List (Char × Char) :=
  [('0', '\x00'), ('a', '\x07'), ('b', '\x08'), ('t', '\t'), ('\t', '\t'), ('n', '\n'), ('v', '\x0b'),
    ('f', '\x0c'), ('r', '\r'), ('e', '\x1b'), (' ', ' '), ('"', '"'), ('\\', '\\'), ('/', '/'),
    ('N', '\u0085'), ('_', '\u00a0'), ('L', '\u2028'), ('P', '\u2029')]

/-- Escapes by number, with the count of hexadecimal digits. -/
def numberedEscapes : List (Char × Nat) := [('x', 2), ('u', 4), ('U', 8)]

/-- The character of a number. Surrogates have none and are replaced. -/
def characterOf (point : Nat) : Except Fault Char :=
  if point ≥ 0x80000000 then .error .characterTooLarge
  else if point ≥ 0x110000 then .error .notACharacter
  else if 0xD800 ≤ point ∧ point < 0xE000 then .ok '\ufffd'
  else .ok (Char.ofNat point)

/-- An escape after its backslash. One before a line break joins the lines. -/
def escapePiece : List Char → Except Fault QuotedPiece
  | [] => .error .malformed
  | c :: rest =>
    match namedEscapes.lookup c, numberedEscapes.lookup c with
    | some escaped, _ => .ok (.text [escaped] 1)
    | none, some count =>
      let digits := rest.take count
      if digits.length = count && digits.all Text.isHexDigit then
        (characterOf (Text.digitsValue 16 digits)).map fun escaped => .text [escaped] (count + 1)
      else .error .malformed
    | none, none =>
      if isBreak c then (quotedBreaks true rest).map fun (breaks, n) => .text breaks (n + 1)
      else .error .malformed

/-- The piece that starts with a character, in single or double quotes. -/
def quotedPiece (double : Bool) (c : Char) (rest : List Char) : Except Fault QuotedPiece :=
  if endsWord (some c) then (quotedBlanks (c :: rest)).map fun (text, n) => .text text (n - 1)
  else if double then
    if c = '"' then .ok .close
    else if c = '\\' then escapePiece rest
    else .ok (.text [c] 0)
  else if c = '\'' then
    if rest.head? = some '\'' then .ok (.text ['\''] 1) else .ok .close
  else .ok (.text [c] 0)

def quotedScalar (double : Bool) (cs : List Char) : Except Fault (List Char × Nat) :=
  match cs with
  | [] => .error .malformed
  | c :: rest =>
    match quotedPiece double c rest with
    | .error fault => .error fault
    | .ok .close => .ok ([], 1)
    | .ok (.text chars more) =>
      (quotedScalar double (rest.drop more)).map fun (text, n) => (chars ++ text, more + 1 + n)
termination_by cs.length
decreasing_by simp only [List.length_drop, List.length_cons]; omega

/-! Block scalars -/

/-- What becomes of the line breaks at the end. -/
inductive Chomping where
  | strip
  | clip
  | keep
  deriving DecidableEq, Repr

structure BlockHeader where
  chomping : Chomping
  increment : Option Nat
  length : Nat
  deriving DecidableEq, Repr

def chomping? : Option Char → Option Chomping
  | some '+' => some .keep
  | some '-' => some .strip
  | _ => none

def increment? (next : Option Char) : Option Nat :=
  match next with
  | some c => if Text.isAsciiDigit c then some (Text.hexValue c) else none
  | none => none

/-- The indicators after the mark of a block scalar, in either order. -/
def blockIndicators (cs : List Char) : BlockHeader :=
  match chomping? cs.head? with
  | some chomping =>
    match increment? cs[1]? with
    | some increment => ⟨chomping, some increment, 2⟩
    | none => ⟨chomping, none, 1⟩
  | none =>
    match increment? cs.head? with
    | none => ⟨.clip, none, 0⟩
    | some increment =>
      match chomping? cs[1]? with
      | some chomping => ⟨chomping, some increment, 2⟩
      | none => ⟨.clip, some increment, 1⟩

/-- The length of what may follow on a line that is otherwise done: spaces, a comment, the break. -/
def ignoredLine? (cs : List Char) : Option Nat :=
  let spaces := (cs.takeWhile (· = ' ')).length
  let after := cs.drop spaces
  let comment := if after.head? = some '#' then (after.takeWhile (!isBreak ·)).length else 0
  if endsLine (after.drop comment).head? then
    some (spaces + comment + (if (after.drop comment).isEmpty then 0 else 1))
  else none

/-- The header with the rest of its line. -/
def blockHeader? (cs : List Char) : Option BlockHeader :=
  let header := blockIndicators cs
  if header.increment = some 0 || !endsField cs[header.length]? then none
  else (ignoredLine? (cs.drop header.length)).map fun n => { header with length := header.length + n }

/-- Blank lines: their breaks, length, and the column where they end. -/
structure BlankLines where
  breaks : List Char
  length : Nat
  column : Nat
  deriving DecidableEq, Repr

def blankLines (indent : Nat) : Nat → List Char → BlankLines
  | column, [] => ⟨[], 0, column⟩
  | column, c :: rest =>
    if c = ' ' && column < indent then
      let lines := blankLines indent (column + 1) rest
      { lines with length := lines.length + 1 }
    else if isBreak c then
      let lines := blankLines indent 0 rest
      { lines with breaks := breakText c :: lines.breaks, length := lines.length + 1 }
    else ⟨[], 0, column⟩

/-- Blank lines of any indentation, with the deepest column in them. -/
def leadingLines : Nat → List Char → BlankLines × Nat
  | column, [] => (⟨[], 0, column⟩, 0)
  | column, c :: rest =>
    if c = ' ' then
      let (lines, deepest) := leadingLines (column + 1) rest
      ({ lines with length := lines.length + 1 }, max deepest (column + 1))
    else if isBreak c then
      let (lines, deepest) := leadingLines 0 rest
      ({ lines with breaks := breakText c :: lines.breaks, length := lines.length + 1 }, deepest)
    else (⟨[], 0, column⟩, 0)

/-- The lines of a block: their text, the last break and the breaks after it. -/
structure BlockLines where
  text : List Char
  last : List Char
  breaks : List Char
  length : Nat
  deriving DecidableEq, Repr

/-- What joins two lines. Lines that start with a blank are not folded. -/
def blockGlue (folded : Bool) (first : Char) (lineBreak breaks : List Char) (next : Option Char) :
    List Char :=
  let starts := fun (c : Char) => c = ' ' || c = '\t'
  if folded && lineBreak = ['\n'] && !starts first && !next.any starts then
    if breaks = [] then [' '] else []
  else lineBreak

/-- The lines from a column on, after blank lines. -/
def blockLines (folded : Bool) (indent column : Nat) (breaks cs : List Char) : BlockLines :=
  match cs with
  | [] => ⟨[], [], breaks, 0⟩
  | c :: rest =>
    if column ≠ indent then ⟨[], [], breaks, 0⟩
    else
      let line := rest.takeWhile (!isBreak ·)
      let lineBreak := ((rest.drop line.length).head?.map breakText).toList
      let blank := blankLines indent 0 (rest.drop (line.length + 1))
      let after := rest.drop (line.length + lineBreak.length + blank.length)
      let text := breaks ++ c :: line
      let length := 1 + line.length + lineBreak.length + blank.length
      if blank.column = indent ∧ after ≠ [] then
        let more := blockLines folded indent blank.column blank.breaks after
        { more with
          text := text ++ blockGlue folded c lineBreak blank.breaks after.head? ++ more.text
          length := length + more.length }
      else ⟨text, lineBreak, blank.breaks, length⟩
termination_by cs.length
decreasing_by simp only [List.length_drop, List.length_cons]; omega

/-- The text of a block scalar after its mark, and its length. -/
def blockScalar? (folded : Bool) (minimum : Nat) (cs : List Char) : Option (List Char × Nat) := do
  let header ← blockHeader? cs
  let body := cs.drop header.length
  let (leading, indent) := match header.increment with
    | some increment => (blankLines (minimum + increment - 1) 0 body, minimum + increment - 1)
    | none => ((leadingLines 0 body).1, max minimum (leadingLines 0 body).2)
  let lines := blockLines folded indent leading.column leading.breaks (body.drop leading.length)
  let ending := match header.chomping with
    | .strip => []
    | .clip => lines.last
    | .keep => lines.last ++ lines.breaks
  return (lines.text ++ ending, header.length + leading.length + lines.length)

end UsingCensus.Yaml
