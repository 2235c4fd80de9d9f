import UsingCensus.Wildcard.Basic

namespace UsingCensus.Wildcard

/-- The characters between an open bracket and the one that closes it. -/
def bracketBody? (cs : List Char) : Option (List Char) :=
  let sign := if cs.head? = some '!' then 1 else 0
  let first := if (cs.drop sign).head? = some ']' then 1 else 0
  let tail := cs.drop (sign + first)
  let inner := tail.takeWhile (· ≠ ']')
  if inner.length < tail.length then some (cs.take (sign + first + inner.length)) else none

/-- Cut a class at the hyphens that make ranges: those with `needed` characters before them since the
last cut, unless they stand at the end. -/
def chunks : Nat → List Char → List (List Char)
  | _, [] => [[]]
  | needed, c :: rest =>
    if c = '-' ∧ needed = 0 ∧ rest ≠ [] then [] :: chunks 2 rest
    else
      match chunks (needed - 1) rest with
      | [] => [[c]]
      | chunk :: more => (c :: chunk) :: more

/-- Drop both ends of each range that is the wrong way round, the last range first. -/
def dropEmptyRanges : List (List Char) → List (List Char)
  | [] => []
  | chunk :: rest =>
    match dropEmptyRanges rest with
    | [] => [chunk]
    | next :: more =>
      match chunk.getLast?, next.head? with
      | some low, some high =>
        if high < low then (chunk.dropLast ++ next.drop 1) :: more else chunk :: next :: more
      | _, _ => chunk :: next :: more

/-- Each cut joins the character before it and the one after it to a range. -/
def rangesOf : List (List Char) → List CharRange
  | [] => []
  | [chunk] => chunk.map .single
  | first :: second :: more =>
    match first.getLast?, second with
    | some low, high :: rest => first.dropLast.map .single ++ ⟨low, high⟩ :: rangesOf (rest :: more)
    | _, _ => first.map .single ++ .single '-' :: rangesOf (second :: more)
termination_by chunks => chunks.length

/-- The class with the given body. A `!` that comes to the front when an empty range goes inverts, too. -/
def classOf (body : List Char) : Glyph :=
  match body with
  | '!' :: rest => .oneOf true (rangesOf (dropEmptyRanges (chunks 1 rest)))
  | _ =>
    match dropEmptyRanges (chunks 1 body) with
    | ('!' :: chunk) :: more => .oneOf true (rangesOf (chunk :: more))
    | parts => .oneOf false (rangesOf parts)

/-- Several stars in a row are one. -/
def consAny : Wildcard → Wildcard
  | .any :: rest => .any :: rest
  | rest => .any :: rest

def ofChars : List Char → Wildcard
  | [] => []
  | '*' :: rest => consAny (ofChars rest)
  | '?' :: rest => .one :: ofChars rest
  | '[' :: rest =>
    match bracketBody? rest with
    | some body => classOf body :: ofChars (rest.drop (body.length + 1))
    | none => .literal '[' :: ofChars rest
  | c :: rest => .literal c :: ofChars rest
termination_by cs => cs.length
decreasing_by all_goals simp only [List.length_drop, List.length_cons]; omega

def covers (pattern text : String) : Bool := (ofChars pattern.toList).accepts text.toList

example : covers "a[!x-z]?*" "abcd" = true ∧ covers "[b-a!x]" "y" = true := by decide +kernel
example : covers "[]-a]" "^" = true ∧ covers "[a-]" "-" = true ∧ covers "[" "[" = true := by decide +kernel

end UsingCensus.Wildcard
