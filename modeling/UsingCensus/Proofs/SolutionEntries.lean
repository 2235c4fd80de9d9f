import Mathlib.Data.List.TakeWhile
import UsingCensus.Workspace.Solution

/-!
What is read from the text of a solution. Main statement: a text that ends with its line tells nothing about the
entries that come after it. Whatever stands before an entry that is written well, the entry is read as it is
written, and so are all entries of a text in their order.
-/
namespace UsingCensus.Solution

open Text

/-- The text is empty or ends with a line end. -/
def Ended (cs : List Char) : Prop := ∀ c ∈ cs.getLast?, c = '\n'

def Blank (cs : List Char) : Prop := ∀ c ∈ cs, isBlank c = true

/-- What every entry starts with, after blanks. -/
def opening : String := "Project(\"\x7b"

/-- The text starts with blanks and the opening of an entry. -/
def Opens (cs : List Char) : Prop := ∃ blanks rest, Blank blanks ∧ cs = blanks ++ (opening.toList ++ rest)

variable {cs after rest front : List Char} {expected closing : String}

theorem Opens.dropWhile_eq (opens : Opens cs) : ∃ rest, cs.dropWhile isBlank = opening.toList ++ rest := by
  obtain ⟨blanks, rest, blank, rfl⟩ := opens
  exact ⟨rest, List.dropWhile_append_of_pos blank⟩

theorem Ended.of_suffix (ended : Ended cs) (suffix : rest <:+ cs) : Ended rest := by
  obtain ⟨before, rfl⟩ := suffix
  intro c last
  apply ended
  rw [List.getLast?_append, Option.mem_def.mp last]
  rfl

/-- Nothing stands at the start of an ended text and what follows it but what stands at the start of the ended
text, as long as it is on one line. -/
theorem Ended.isPrefixOf_append (ended : Ended cs) (filled : cs ≠ []) (unbroken : '\n' ∉ front) :
    front.isPrefixOf (cs ++ after) = front.isPrefixOf cs := by
  rw [Bool.eq_iff_iff, List.isPrefixOf_iff_prefix, List.isPrefixOf_iff_prefix]
  constructor
  · intro starts
    by_cases short : front.length ≤ cs.length
    · exact List.prefix_of_prefix_length_le starts (List.prefix_append cs after) short
    · have within : cs <+: front :=
        List.prefix_of_prefix_length_le (List.prefix_append cs after) starts (by omega)
      have last := ended _ (List.getLast?_eq_some_getLast filled)
      exact absurd (within.mem (List.getLast_mem filled)) (last ▸ unbroken)
  · intro starts
    exact starts.trans (List.prefix_append cs after)

theorem Ended.ne_nil (ended : Ended (front ++ '"' :: rest)) : rest ≠ [] := by
  rintro rfl
  have last := ended '"' (by simp)
  revert last
  decide

theorem dropWhile_append_of_left {p : Char → Bool} (left : cs.dropWhile p ≠ []) :
    (cs ++ after).dropWhile p = cs.dropWhile p ++ after := by
  rw [List.dropWhile_append, List.isEmpty_eq_false_iff.mpr left]
  rfl

theorem takeWhile_append_of_left {p : Char → Bool} (left : cs.dropWhile p ≠ []) :
    (cs ++ after).takeWhile p = cs.takeWhile p := by
  have shorter : (cs.takeWhile p).length ≠ cs.length := by
    intro same
    have whole : (cs.takeWhile p ++ cs.dropWhile p).length = cs.length := by
      rw [List.takeWhile_append_dropWhile]
    have some := List.length_pos_iff.mpr left
    rw [List.length_append] at whole
    omega
  rw [List.takeWhile_append, if_neg shorter]

/-! ### Words -/

theorem word?_of_blank (blank : Blank front) : word? expected (front ++ cs) = word? expected cs := by
  unfold word?
  rw [List.dropWhile_append_of_pos blank]

theorem word?_nil (filled : expected ≠ "") : word? expected [] = none := by
  have letters : expected.toList ≠ [] := fun empty => filled (String.toList_eq_nil_iff.mp empty)
  obtain ⟨c, more, spelled⟩ := List.exists_cons_of_ne_nil letters
  simp [word?, spelled]

theorem eq_of_word? (found : word? expected cs = some rest) : ∃ front, cs = front ++ rest := by
  unfold word? at found
  dsimp only at found
  split at found
  · cases found
    refine ⟨cs.takeWhile isBlank ++ (cs.dropWhile isBlank).take expected.length, ?_⟩
    rw [List.append_assoc, List.take_append_drop, List.takeWhile_append_dropWhile]
  · cases found

theorem word?_append (ended : Ended cs) (filled : ¬ Blank cs) (unbroken : '\n' ∉ expected.toList) :
    word? expected (cs ++ after) = (word? expected cs).map (· ++ after) := by
  have left : cs.dropWhile isBlank ≠ [] := fun none => filled (List.dropWhile_eq_nil_iff.mp none)
  have stillEnded : Ended (cs.dropWhile isBlank) := ended.of_suffix (List.dropWhile_suffix _)
  unfold word?
  dsimp only
  rw [dropWhile_append_of_left left, stillEnded.isPrefixOf_append left unbroken]
  split
  · rename_i starts
    have long : expected.length ≤ (cs.dropWhile isBlank).length := by
      have bounded := (List.isPrefixOf_iff_prefix.mp starts).length_le
      rwa [String.length_toList] at bounded
    rw [List.drop_append_of_le_length long]
    rfl
  · rfl

theorem word?_of_opens (opens : Opens cs) {c : Char} (starts : expected.toList.head? = some c) (other : c ≠ 'P') :
    word? expected cs = none := by
  obtain ⟨rest, opened⟩ := opens.dropWhile_eq
  obtain ⟨more, spelled⟩ := List.head?_eq_some_iff.mp starts
  unfold word?
  simp [opened, spelled, opening, List.isPrefixOf, other]

/-! ### Identifiers and quoted texts -/

theorem eq_of_guid? {guid : String} (found : guid? closing cs = some (guid, rest)) :
    ∃ front, cs = front ++ closing.toList ++ rest := by
  unfold guid? at found
  dsimp only at found
  split at found
  · rename_i fits
    cases found
    obtain ⟨left, closed⟩ := List.isPrefixOf_iff_prefix.mp (Bool.and_eq_true_iff.mp fits).2
    refine ⟨cs.takeWhile isGuidChar, ?_⟩
    have tail : (cs.dropWhile isGuidChar).drop closing.length = left := by
      rw [← closed, ← String.length_toList, List.drop_left]
    rw [tail, List.append_assoc, closed, List.takeWhile_append_dropWhile]
  · cases found

theorem isBlank_of_isGuidChar {c : Char} (guid : isGuidChar c = true) : isBlank c = false := by
  have bounds : c.toNat = 45 ∨ (48 ≤ c.toNat ∧ c.toNat ≤ 57) ∨ (97 ≤ c.toNat ∧ c.toNat ≤ 102) ∨
      (65 ≤ c.toNat ∧ c.toNat ≤ 70) := by
    simp only [isGuidChar, isHexDigit, isAsciiDigit, Bool.or_eq_true, Bool.and_eq_true, decide_eq_true_eq] at guid
    rcases guid with ((digit | small) | capital) | rfl
    · exact .inr (.inl digit)
    · exact .inr (.inr (.inl small))
    · exact .inr (.inr (.inr capital))
    · exact .inl rfl
  simp only [isBlank, Bool.or_eq_false_iff, Bool.and_eq_false_iff, decide_eq_false_iff_not, beq_eq_false_iff_ne]
  omega

theorem takeWhile_isGuidChar_of_opens (opens : Opens cs) : cs.takeWhile isGuidChar = [] := by
  obtain ⟨rest, opened⟩ := opens.dropWhile_eq
  cases cs with
  | nil => cases opened
  | cons c more =>
    refine List.takeWhile_cons_of_neg fun guid => ?_
    rw [List.dropWhile_cons_of_neg (by simp [isBlank_of_isGuidChar guid])] at opened
    rw [(List.cons.inj opened).1] at guid
    revert guid
    decide

theorem guid?_append (ended : Ended cs) (opens : Opens after) (unbroken : '\n' ∉ closing.toList) :
    guid? closing (cs ++ after) = (guid? closing cs).map fun found => (found.1, found.2 ++ after) := by
  cases cs with
  | nil =>
    unfold guid?
    simp [takeWhile_isGuidChar_of_opens opens]
  | cons c more =>
    generalize same : c :: more = cs at ended
    have filled : cs ≠ [] := same ▸ List.cons_ne_nil c more
    have left : cs.dropWhile isGuidChar ≠ [] := by
      intro none
      have last := ended _ (List.getLast?_eq_some_getLast filled)
      have all := List.dropWhile_eq_nil_iff.mp none _ (List.getLast_mem filled)
      rw [last] at all
      revert all
      decide
    have stillEnded : Ended (cs.dropWhile isGuidChar) := ended.of_suffix (List.dropWhile_suffix _)
    unfold guid?
    dsimp only
    rw [dropWhile_append_of_left left, takeWhile_append_of_left left, stillEnded.isPrefixOf_append left unbroken]
    split
    · rename_i fits
      have long : closing.length ≤ (cs.dropWhile isGuidChar).length := by
        have bounded := (List.isPrefixOf_iff_prefix.mp (Bool.and_eq_true_iff.mp fits).2).length_le
        rwa [String.length_toList] at bounded
      rw [List.drop_append_of_le_length long]
      rfl
    · rfl

theorem eq_of_untilQuote? {quoted : String} (found : untilQuote? cs = some (quoted, rest)) :
    cs = quoted.toList ++ '"' :: rest := by
  unfold untilQuote? at found
  split at found
  · rename_i c left behind
    cases found
    have quote : c = '"' := by
      have stops := List.head?_dropWhile_not (· ≠ '"') cs
      rw [behind] at stops
      simpa using stops
    rw [quote] at behind
    rw [String.toList_ofList, ← behind, List.takeWhile_append_dropWhile]
  · cases found

theorem untilQuote?_append (quoted : '"' ∈ cs) :
    untilQuote? (cs ++ after) = (untilQuote? cs).map fun found => (found.1, found.2 ++ after) := by
  have left : cs.dropWhile (· ≠ '"') ≠ [] := by
    intro none
    have all := List.dropWhile_eq_nil_iff.mp none '"' quoted
    simp at all
  unfold untilQuote?
  rw [dropWhile_append_of_left left, takeWhile_append_of_left left]
  cases behind : cs.dropWhile (· ≠ '"') with
  | nil => exact absurd behind left
  | cons c more => rfl

/-- A quoted text that is not closed before an entry is closed in its opening, and no comma follows. -/
theorem word?_of_untilQuote? (unquoted : '"' ∉ cs) (opens : Opens after) {quoted : String}
    (found : untilQuote? (cs ++ after) = some (quoted, rest)) : word? "," rest = none := by
  obtain ⟨blanks, more, blank, rfl⟩ := opens
  have whole : cs ++ (blanks ++ (opening.toList ++ more)) =
      (cs ++ (blanks ++ "Project(".toList)) ++ '"' :: '\x7b' :: more := by
    rw [List.append_assoc, List.append_assoc]
    rfl
  have before : ∀ c ∈ cs ++ (blanks ++ "Project(".toList), decide (c ≠ '"') = true := by
    intro c member
    rw [decide_eq_true_iff]
    rintro rfl
    rcases List.mem_append.mp member with inside | outside
    · exact unquoted inside
    · rcases List.mem_append.mp outside with white | letter
      · exact absurd (blank '"' white) (by decide)
      · revert letter
        decide
  unfold untilQuote? at found
  rw [whole, List.dropWhile_append_of_pos before] at found
  cases found
  rfl

/-! ### Readers on ended texts -/

/-- What the reader takes from a text ends with a quote, and it reads an ended text before an entry as it reads the
ended text alone. -/
structure Confined (after : List Char) (read : List Char → Option (RawEntry × List Char)) : Prop where
  quoted : ∀ cs found, read cs = some found → ∃ front, cs = front ++ '"' :: found.2
  append : ∀ cs, Ended cs → read (cs ++ after) = (read cs).map fun found => (found.1, found.2 ++ after)

namespace Confined

variable {next : List Char → Option (RawEntry × List Char)}
  {nextOf : String → List Char → Option (RawEntry × List Char)}

theorem exists_quoted (confined : Confined after next) {found : RawEntry × List Char} (reads : next rest = some found) :
    ∃ front, cs ++ rest = front ++ '"' :: found.2 := by
  obtain ⟨front, same⟩ := confined.quoted rest found reads
  exact ⟨cs ++ front, by rw [same, List.append_assoc]⟩

theorem word (confined : Confined after next) (opens : Opens after) (unbroken : '\n' ∉ expected.toList) {c : Char}
    (starts : expected.toList.head? = some c) (other : c ≠ 'P') :
    Confined after fun cs => (word? expected cs).bind next where
  quoted := by
    intro cs found reads
    obtain ⟨rest, behind, later⟩ := Option.bind_eq_some_iff.mp reads
    obtain ⟨before, rfl⟩ := eq_of_word? behind
    exact confined.exists_quoted later
  append := by
    intro cs ended
    by_cases blank : Blank cs
    · have filled : expected ≠ "" := by
        rintro rfl
        cases starts
      have none : word? expected cs = none := by
        rw [← List.append_nil cs, word?_of_blank blank, word?_nil filled]
      rw [word?_of_blank blank, word?_of_opens opens starts other, none]
      rfl
    · rw [word?_append ended blank unbroken]
      cases behind : word? expected cs with
      | none => rfl
      | some rest =>
        obtain ⟨before, rfl⟩ := eq_of_word? behind
        exact confined.append rest (ended.of_suffix (List.suffix_append _ _))

theorem guid (confined : ∀ guid, Confined after (nextOf guid)) (opens : Opens after)
    (unbroken : '\n' ∉ closing.toList) :
    Confined after fun cs => (guid? closing cs).bind fun found => nextOf found.1 found.2 where
  quoted := by
    intro cs found reads
    obtain ⟨⟨guid, rest⟩, behind, later⟩ := Option.bind_eq_some_iff.mp reads
    obtain ⟨before, rfl⟩ := eq_of_guid? behind
    exact (confined guid).exists_quoted later
  append := by
    intro cs ended
    rw [guid?_append ended opens unbroken]
    cases behind : guid? closing cs with
    | none => rfl
    | some read =>
      obtain ⟨before, rfl⟩ := eq_of_guid? behind
      exact (confined read.1).append read.2 (ended.of_suffix (List.suffix_append _ _))

theorem untilComma (confined : ∀ quoted, Confined after (nextOf quoted)) (opens : Opens after) :
    Confined after fun cs => (untilQuote? cs).bind fun found => (word? "," found.2).bind (nextOf found.1) where
  quoted := by
    intro cs found reads
    obtain ⟨⟨quoted, rest⟩, behind, later⟩ := Option.bind_eq_some_iff.mp reads
    have comma := (confined quoted).word opens (by decide) (show ",".toList.head? = some ',' by rfl) (by decide)
    obtain ⟨front, same⟩ := comma.quoted rest found later
    refine ⟨quoted.toList ++ '"' :: front, ?_⟩
    rw [eq_of_untilQuote? behind, same, List.append_assoc]
    rfl
  append := by
    intro cs ended
    by_cases closed : '"' ∈ cs
    · rw [untilQuote?_append closed]
      cases behind : untilQuote? cs with
      | none => rfl
      | some read =>
        have comma := (confined read.1).word opens (by decide) (show ",".toList.head? = some ',' by rfl) (by decide)
        have left : Ended read.2 := ended.of_suffix
          ⟨read.1.toList ++ ['"'], by rw [eq_of_untilQuote? behind, List.append_assoc]; rfl⟩
        exact comma.append read.2 left
    · have alone : untilQuote? cs = none := by
        cases behind : untilQuote? cs with
        | none => rfl
        | some read => exact absurd (by rw [eq_of_untilQuote? behind]; simp) closed
      rw [alone]
      cases behind : untilQuote? (cs ++ after) with
      | none => rfl
      | some read =>
        rw [Option.bind_some, word?_of_untilQuote? closed opens behind]
        rfl

theorem last (make : String → RawEntry) (opens : Opens after) :
    Confined after fun cs => (guid? "\x7d\"" cs).bind fun found => some (make found.1, found.2) where
  quoted := by
    intro cs found reads
    obtain ⟨⟨guid, rest⟩, behind, made⟩ := Option.bind_eq_some_iff.mp reads
    obtain ⟨before, rfl⟩ := eq_of_guid? behind
    cases made
    exact ⟨before ++ ['\x7d'], by simp⟩
  append := by
    intro cs ended
    rw [guid?_append ended opens (by decide)]
    cases guid? "\x7d\"" cs with
    | none => rfl
    | some read => rfl

end Confined

/-- Behind its opening an entry is read by a reader that heeds line ends. -/
theorem exists_confined (opens : Opens after) :
    ∃ read, Confined after read ∧ ∀ cs, entry? cs = (word? opening cs).bind read :=
  have sign : "=".toList.head? = some '=' := rfl
  have quote : "\"".toList.head? = some '"' := rfl
  have comma : ",".toList.head? = some ',' := rfl
  have brace : "\"\x7b".toList.head? = some '"' := rfl
  ⟨_, .guid (fun kind => .word (.word (.untilComma (fun name => .word (.untilComma (fun path =>
    .word (.last (fun guid => ⟨kind, name, path, guid⟩) opens) opens (by decide) brace (by decide)) opens)
      opens (by decide) quote (by decide)) opens) opens (by decide) quote (by decide))
        opens (by decide) sign (by decide)) opens (by decide), fun cs => rfl⟩

theorem entry?_append (ended : Ended cs) (filled : ¬ Blank cs) (opens : Opens after) :
    entry? (cs ++ after) = (Solution.entry? cs).map fun found => (found.1, found.2 ++ after) := by
  obtain ⟨read, confined, reads⟩ := exists_confined opens
  rw [reads, reads, word?_append ended filled (by decide)]
  cases behind : word? opening cs with
  | none => rfl
  | some rest =>
    obtain ⟨before, rfl⟩ := eq_of_word? behind
    exact confined.append rest (ended.of_suffix (List.suffix_append _ _))

theorem eq_of_entry? {found : RawEntry × List Char} (reads : entry? cs = some found) :
    ∃ front, cs = front ++ '"' :: found.2 := by
  -- any text that opens an entry will do, as nothing is appended
  have opens : Opens opening.toList := ⟨[], [], by simp [Blank], by simp⟩
  obtain ⟨read, confined, spelled⟩ := exists_confined opens
  rw [spelled] at reads
  obtain ⟨rest, behind, later⟩ := Option.bind_eq_some_iff.mp reads
  obtain ⟨before, rfl⟩ := eq_of_word? behind
  exact confined.exists_quoted later

theorem entry?_of_blank (blank : Blank front) : entry? (front ++ cs) = entry? cs := by
  unfold entry?
  have same : word? "Project(\"\x7b" (front ++ cs) = word? "Project(\"\x7b" cs := word?_of_blank blank
  rw [same]

/-! ### Entries of a text -/

theorem scan_skip (skipped : List Char) : scan skipped.length false (skipped ++ cs) = scan 0 false cs := by
  induction skipped with
  | nil => rfl
  | cons c rest ih => exact ih

theorem scan_start (c : Char) (cs : List Char) :
    scan 0 true (c :: cs) = match entry? (c :: cs) with
      | some (entry, after) => entry :: scan (cs.length - after.length) false cs
      | none => scan 0 (c = '\n') cs := (rfl)

theorem scan_within (c : Char) (cs : List Char) : scan 0 false (c :: cs) = scan 0 (c = '\n') cs := rfl

theorem scan_of_reads {entry : RawEntry} (found : entry? cs = some (entry, rest)) :
    scan 0 true cs = entry :: scan 0 false rest := by
  obtain ⟨front, whole⟩ := eq_of_entry? found
  obtain ⟨c, skipped, starts⟩ := List.exists_cons_of_ne_nil (show front ++ ['"'] ≠ [] by simp)
  have passed : cs = c :: (skipped ++ rest) := by
    rw [← List.cons_append, ← starts, List.append_assoc]
    exact whole
  subst passed
  have length : (skipped ++ rest).length - rest.length = skipped.length := by
    rw [List.length_append, Nat.add_sub_cancel]
  rw [scan_start, found]
  dsimp only
  rw [length, scan_skip]

theorem scan_of_none {c : Char} (missing : entry? (c :: cs) = none) :
    scan 0 true (c :: cs) = scan 0 (c = '\n') cs := by
  rw [scan_start, missing]

theorem scan_line {line : List Char} (unbroken : '\n' ∉ line) (cs : List Char) :
    scan 0 false (line ++ '\n' :: cs) = scan 0 true cs := by
  induction line with
  | nil => rfl
  | cons c more ih =>
    obtain ⟨other, later⟩ := not_or.mp (mt List.mem_cons.mpr unbroken)
    rw [List.cons_append, scan_within, decide_eq_false (Ne.symm other)]
    exact ih later

theorem Ended.next {c : Char} (ended : Ended (c :: cs)) : decide (c = '\n') = true ∨ cs ≠ [] := by
  by_cases some : cs = []
  · subst some
    exact .inl (decide_eq_true (ended c rfl))
  · exact .inr some

theorem scan_blank {blank : List Char} (white : Blank blank) (ended : Ended blank) (cs : List Char) :
    scan 0 true (blank ++ cs) = scan 0 true cs := by
  cases read : entry? cs with
  | some found =>
    have same : entry? (blank ++ cs) = some (found.1, found.2) := (entry?_of_blank white).trans read
    rw [scan_of_reads same, scan_of_reads (show entry? cs = some (found.1, found.2) from read)]
  | none =>
    -- the search goes on within the blanks, so that it need not be at a line start
    have both (atStart : Bool) (starts : atStart = true ∨ blank ≠ []) :
        scan 0 atStart (blank ++ cs) = scan 0 true cs := by
      induction blank generalizing atStart with
      | nil =>
        rw [starts.resolve_right (fun some => some rfl)]
        rfl
      | cons c more ih =>
        have later := ih (List.forall_mem_cons.mp white).2 (ended.of_suffix (List.suffix_cons c more)) _ ended.next
        have missing : entry? (c :: (more ++ cs)) = none := (entry?_of_blank white).trans read
        cases atStart with
        | false => exact (scan_within c _).trans later
        | true => exact (scan_of_none missing).trans later
    exact both true (.inl rfl)

/-- What is found in an ended text is found there whatever entry follows, and then what is found in what
follows. -/
theorem scan_append (opens : Opens after) (cs : List Char) (ended : Ended cs) (atStart : Bool)
    (starts : atStart = true ∨ cs ≠ []) :
    scan 0 atStart (cs ++ after) = scan 0 atStart cs ++ scan 0 true after := by
  match cs, atStart with
  | [], false => exact absurd rfl (starts.resolve_left Bool.false_ne_true)
  | [], true => rfl
  | c :: more, false =>
    have stillEnded : Ended more := ended.of_suffix (List.suffix_cons c more)
    rw [List.cons_append, scan_within, scan_within]
    exact scan_append opens more stillEnded _ ended.next
  | c :: more, true =>
    by_cases blank : Blank (c :: more)
    · have none : scan 0 true (c :: more) = [] := by
        rw [← List.append_nil (c :: more), scan_blank blank ended]
        rfl
      rw [scan_blank blank ended, none]
      rfl
    have same := entry?_append ended blank opens
    cases read : entry? (c :: more) with
    | none =>
      have stillEnded : Ended more := ended.of_suffix (List.suffix_cons c more)
      rw [read] at same
      rw [scan_of_none read]
      have passed : scan 0 true (c :: (more ++ after)) = scan 0 (c = '\n') (more ++ after) := scan_of_none same
      exact passed.trans (scan_append opens more stillEnded _ ended.next)
    | some found =>
      obtain ⟨front, whole⟩ := eq_of_entry? read
      have left : found.2 <:+ c :: more := ⟨front ++ ['"'], by rw [whole, List.append_assoc]; rfl⟩
      have shorter : found.2.length < (c :: more).length := by
        rw [whole, List.length_append, List.length_cons]
        omega
      rw [read] at same
      rw [scan_of_reads same, scan_of_reads (show entry? (c :: more) = some (found.1, found.2) from read),
        scan_append opens found.2 (ended.of_suffix left) false (.inr (Ended.ne_nil (whole ▸ ended)))]
      rfl
termination_by cs.length
decreasing_by
  · exact Nat.lt_succ_self _
  · exact Nat.lt_succ_self _
  · exact shorter

/-! ### Entries that are written well -/

/-- The blanks in an entry: before it, and on either side of the equals sign and of the two commas. -/
structure Spacing where
  front : List Char
  beforeSign : List Char
  afterSign : List Char
  beforeComma : List Char
  afterComma : List Char
  beforeLast : List Char
  afterLast : List Char
  blank : ∀ run ∈ [front, beforeSign, afterSign, beforeComma, afterComma, beforeLast, afterLast], Blank run

/-- An identifier has hexadecimal digits and hyphens, at least one of them. -/
def IsGuid (text : String) : Prop := text ≠ "" ∧ ∀ c ∈ text.toList, isGuidChar c = true

/-- The kind and the identifier are identifiers, and no quote stands in the name or the path. -/
structure RawEntry.WellFormed (entry : RawEntry) : Prop where
  kind : IsGuid entry.kind
  guid : IsGuid entry.guid
  name : '"' ∉ entry.name.toList
  path : '"' ∉ entry.path.toList

def RawEntry.write (entry : RawEntry) (spacing : Spacing) : List Char :=
  spacing.front ++ opening.toList ++ entry.kind.toList ++ "\x7d\")".toList ++
    spacing.beforeSign ++ "=".toList ++ spacing.afterSign ++ "\"".toList ++ entry.name.toList ++ "\"".toList ++
    spacing.beforeComma ++ ",".toList ++ spacing.afterComma ++ "\"".toList ++ entry.path.toList ++ "\"".toList ++
    spacing.beforeLast ++ ",".toList ++ spacing.afterLast ++ "\"\x7b".toList ++ entry.guid.toList ++ "\x7d\"".toList

theorem word?_written (expected : String) {c : Char} (starts : expected.toList.head? = some c)
    (black : isBlank c = false) (blank : Blank front) (cs : List Char) :
    word? expected (front ++ (expected.toList ++ cs)) = some cs := by
  obtain ⟨more, spelled⟩ := List.head?_eq_some_iff.mp starts
  have kept : (expected.toList ++ cs).dropWhile isBlank = expected.toList ++ cs := by
    rw [spelled, List.cons_append]
    exact List.dropWhile_cons_of_neg (by simp [black])
  rw [word?_of_blank blank]
  unfold word?
  dsimp only
  rw [kept, if_pos (List.isPrefixOf_iff_prefix.mpr (List.prefix_append _ _)), ← String.length_toList, List.drop_left]

theorem guid?_written (closing : String) {c : Char} (starts : closing.toList.head? = some c)
    (other : isGuidChar c = false) {guid : String} (isGuid : IsGuid guid)
    (cs : List Char) : guid? closing (guid.toList ++ (closing.toList ++ cs)) = some (guid, cs) := by
  obtain ⟨more, spelled⟩ := List.head?_eq_some_iff.mp starts
  have stops : (closing.toList ++ cs).dropWhile isGuidChar = closing.toList ++ cs ∧
      (closing.toList ++ cs).takeWhile isGuidChar = [] := by
    rw [spelled, List.cons_append]
    exact ⟨List.dropWhile_cons_of_neg (by simp [other]), List.takeWhile_cons_of_neg (by simp [other])⟩
  have filled : guid.toList ≠ [] := fun empty => isGuid.1 (String.toList_eq_nil_iff.mp empty)
  have fits : closing.toList.isPrefixOf (closing.toList ++ cs) = true :=
    List.isPrefixOf_iff_prefix.mpr (List.prefix_append _ _)
  unfold guid?
  rw [List.takeWhile_append_of_pos isGuid.2, List.dropWhile_append_of_pos isGuid.2, stops.1, stops.2]
  dsimp only
  rw [List.append_nil, fits, if_pos (by simpa using filled), String.ofList_toList, ← String.length_toList,
    List.drop_left]

theorem untilQuote?_written {quoted : String} (unquoted : '"' ∉ quoted.toList) (cs : List Char) :
    untilQuote? (quoted.toList ++ ("\"".toList ++ cs)) = some (quoted, cs) := by
  have before : ∀ c ∈ quoted.toList, decide (c ≠ '"') = true := by
    intro c member
    rw [decide_eq_true_iff]
    exact fun quote => unquoted (quote ▸ member)
  have stop : ("\"".toList ++ cs).dropWhile (· ≠ '"') = '"' :: cs ∧ ("\"".toList ++ cs).takeWhile (· ≠ '"') = [] :=
    ⟨rfl, rfl⟩
  unfold untilQuote?
  rw [List.takeWhile_append_of_pos before, List.dropWhile_append_of_pos before, stop.1, stop.2]
  dsimp only
  rw [List.append_nil, String.ofList_toList]

theorem entry?_write {entry : RawEntry} (wellFormed : entry.WellFormed) (spacing : Spacing) :
    entry? (entry.write spacing ++ cs) = some (entry, cs) := by
  have blank := spacing.blank
  simp only [List.forall_mem_cons] at blank
  obtain ⟨front, beforeSign, afterSign, beforeComma, afterComma, beforeLast, afterLast, _⟩ := blank
  unfold RawEntry.write entry?
  simp only [List.append_assoc]
  have opened := word?_written opening rfl (by decide) front
  have closedKind := guid?_written "\x7d\")" rfl (by decide) wellFormed.kind
  have sign := word?_written "=" rfl (by decide) beforeSign
  have beforeName := word?_written "\"" rfl (by decide) afterSign
  have comma := word?_written "," rfl (by decide) beforeComma
  have beforePath := word?_written "\"" rfl (by decide) afterComma
  have lastComma := word?_written "," rfl (by decide) beforeLast
  have beforeGuid := word?_written "\"\x7b" rfl (by decide) afterLast
  have closedGuid := guid?_written "\x7d\"" rfl (by decide) wellFormed.guid
  simp only [← opening.eq_1, opened, closedKind, sign, beforeName, untilQuote?_written wellFormed.name, comma,
    beforePath, untilQuote?_written wellFormed.path, lastComma, beforeGuid, closedGuid, Option.bind_eq_bind,
    Option.bind_some, pure]

theorem opens_write (entry : RawEntry) (spacing : Spacing) (cs : List Char) : Opens (entry.write spacing ++ cs) := by
  have blank : Blank spacing.front := spacing.blank spacing.front List.mem_cons_self
  unfold RawEntry.write
  simp only [List.append_assoc]
  exact ⟨spacing.front, _, blank, rfl⟩

/-! ### Lines -/

/-- A line of a solution: an entry, which anything may follow, or something else. -/
inductive Line where
  | entry (written : RawEntry) (spacing : Spacing) (behind : List Char)
  | other (cs : List Char)

namespace Line

def text : Line → List Char
  | entry written spacing behind => written.write spacing ++ behind ++ ['\n']
  | other cs => cs ++ ['\n']

def entry? : Line → Option RawEntry
  | entry written _ _ => some written
  | other _ => none

/-- Entries are written well, and nothing else starts like one. -/
def Sound : Line → Prop
  | entry written _ behind => written.WellFormed ∧ '\n' ∉ behind
  | other cs => '\n' ∉ cs ∧ ¬ Opens cs

end Line

/-- A line that starts otherwise holds no entry, and neither does it with all that follows. -/
theorem entry?_of_not_opens {line : List Char} (filled : ¬ Blank line) (other : ¬ Opens line) (cs : List Char) :
    entry? (line ++ '\n' :: cs) = none := by
  have ended : Ended (line ++ ['\n']) := by
    intro c last
    simpa using last.symm
  have some : ¬ Blank (line ++ ['\n']) := fun blank => filled fun c member => blank c (List.mem_append_left _ member)
  have left : line.dropWhile isBlank ≠ [] := fun none => filled (List.dropWhile_eq_nil_iff.mp none)
  have missing : word? opening (line ++ ['\n']) = none := by
    unfold word?
    dsimp only
    rw [dropWhile_append_of_left left, if_neg]
    intro starts
    rcases List.prefix_concat_iff.mp (List.isPrefixOf_iff_prefix.mp starts) with whole | ⟨rest, opened⟩
    · have broken : '\n' ∈ opening.toList := by
        rw [whole]
        simp
      revert broken
      decide
    · refine other ⟨line.takeWhile isBlank, rest, fun c member => List.mem_takeWhile_imp member, ?_⟩
      rw [opened, List.takeWhile_append_dropWhile]
  have nothing : word? opening (line ++ ['\n'] ++ cs) = none := by
    rw [word?_append ended some (by decide), missing]
    rfl
  rw [List.append_assoc, List.singleton_append] at nothing
  unfold entry?
  rw [← opening, nothing]
  rfl

theorem scan_other {line : List Char} (unbroken : '\n' ∉ line) (other : ¬ Opens line) (cs : List Char) :
    scan 0 true (line ++ '\n' :: cs) = scan 0 true cs := by
  by_cases blank : Blank line
  · have white : Blank (line ++ ['\n']) := List.forall_mem_append.mpr ⟨blank, List.forall_mem_singleton.mpr rfl⟩
    have ended : Ended (line ++ ['\n']) := by
      intro c last
      simpa using last.symm
    have passed := scan_blank white ended cs
    rwa [List.append_assoc] at passed
  · have missing := entry?_of_not_opens blank other cs
    cases line with
    | nil => exact absurd (fun c member => nomatch member) blank
    | cons c more =>
      obtain ⟨different, later⟩ := not_or.mp (mt List.mem_cons.mpr unbroken)
      rw [List.cons_append] at missing ⊢
      rw [scan_of_none missing, decide_eq_false (Ne.symm different)]
      exact scan_line later cs

/-- Sound lines are read line by line. -/
theorem rawEntries_lines {lines : List Line} (sound : ∀ line ∈ lines, line.Sound) (cs : List Char) :
    rawEntries (lines.flatMap Line.text ++ cs) = lines.filterMap Line.entry? ++ rawEntries cs := by
  induction lines with
  | nil => rfl
  | cons line more ih =>
    obtain ⟨first, others⟩ := List.forall_mem_cons.mp sound
    have later := ih others
    rw [List.flatMap_cons, List.append_assoc]
    unfold rawEntries at later ⊢
    cases line with
    | entry written spacing behind =>
      have read : Solution.entry? (written.write spacing ++ (behind ++ '\n' :: (more.flatMap Line.text ++ cs))) = _ :=
        entry?_write first.1 spacing
      have spelled : (Line.entry written spacing behind).text ++ (more.flatMap Line.text ++ cs) =
          written.write spacing ++ (behind ++ '\n' :: (more.flatMap Line.text ++ cs)) := by
        simp [Line.text]
      rw [spelled, scan_of_reads read, scan_line first.2, later]
      rfl
    | other line =>
      have spelled : (Line.other line).text ++ (more.flatMap Line.text ++ cs) =
          line ++ '\n' :: (more.flatMap Line.text ++ cs) := by
        simp [Line.text]
      rw [spelled, scan_other first.1 first.2, later]
      rfl

/-! ### Solutions -/

def entriesIn (directory : Path) (cs : List Char) : List SolutionEntry := (rawEntries cs).map (resolve directory)

/-- What an entry is read as that starts a text, whatever stands before it. -/
structure Separate (before text : List Char) (entry : RawEntry) : Prop where
  append : ∀ directory,
    entriesIn directory (before ++ text) = entriesIn directory before ++ entriesIn directory text
  first : ∀ directory, (entriesIn directory text).head? = some {
    name := entry.name
    path := Path.locate directory (String.ofList (entry.path.toList.map fun c => if c = '\\' then '/' else c))
    kind := entry.kind
    guid := entry.guid }
  file : ∀ (around : Surroundings) file bytes, around.read file.toString = .ok bytes →
    Solution.text bytes = before ++ text →
    around.solutionEntries file = .ok (entriesIn file.parent before ++ entriesIn file.parent text)

/-- Entries are read whatever stands before them, as long as that ends with its line: what is cut short there
neither hides nor alters them. Between lines that do not start like one, they are read in their order. -/
theorem entries_separate {before : List Char} (ended : Ended before) {entry : RawEntry}
    (wellFormed : entry.WellFormed) (spacing : Spacing) (rest : List Char) :
    Separate before (entry.write spacing ++ rest) entry ∧
      ∀ lines : List Line, (∀ line ∈ lines, line.Sound) → ∀ directory cs,
        entriesIn directory (lines.flatMap Line.text ++ cs) =
          (lines.filterMap Line.entry?).map (resolve directory) ++ entriesIn directory cs := by
  have both (directory : Path) : entriesIn directory (before ++ (entry.write spacing ++ rest)) =
      entriesIn directory before ++ entriesIn directory (entry.write spacing ++ rest) := by
    unfold entriesIn rawEntries
    rw [scan_append (opens_write entry spacing rest) before ended true (.inl rfl), List.map_append]
  refine ⟨⟨both, fun directory => ?_, fun around file bytes read spelled => ?_⟩, fun lines sound directory cs => ?_⟩
  · unfold entriesIn rawEntries
    rw [scan_of_reads (entry?_write wellFormed spacing)]
    rfl
  · rw [← both, ← spelled, Surroundings.solutionEntries, read]
    rfl
  · unfold entriesIn
    rw [rawEntries_lines sound, List.map_append]

/-- An entry that is cut short within its path. -/
def sampleCut : List Char := "Project(\"\x7bA\x7d\") = \"lost\", \"x\n".toList

def sampleEntry : RawEntry := ⟨"1-f", "n", "a\\..\\b.csproj", "2"⟩

/-- Blanks before the entry, around its first sign and behind its last one, a line break among them. -/
def sampleSpacing : Spacing := ⟨[' '], [], ['\t'], ['\n'], [], [], [' '], by simp [Blank, isBlank]⟩

def sampleText : List Char := sampleEntry.write sampleSpacing ++ ['!']

def sampleLines : List Line := [.entry sampleEntry sampleSpacing ['?'], .other "EndProject".toList]

def sampleBytes : List UInt8 := Text.Utf8.ofString (String.ofList (sampleCut ++ sampleText))

def solutionSample : Surroundings where
  tree := ⟨[(["r"], .directory), (["r", "s.sln"], .file sampleBytes)], by decide⟩
  directory := ["r"]
  home := "/r"

/-- Behind an entry that is cut short within its path, an entry is read in full: from a text, from a file, and when
another line stands between them. -/
theorem entries_separate_sample :
    Ended sampleCut ∧ sampleEntry.WellFormed ∧ Separate sampleCut sampleText sampleEntry ∧
      solutionSample.solutionEntries ⟨.root, ["r", "s.sln"]⟩ = .ok [⟨"n", ⟨.root, ["r", "b.csproj"]⟩, "1-f", "2"⟩] ∧
      (∀ line ∈ sampleLines, line.Sound) ∧
      entriesIn ⟨.root, []⟩ (sampleLines.flatMap Line.text ++ sampleText) =
        [⟨"n", ⟨.root, ["b.csproj"]⟩, "1-f", "2"⟩, ⟨"n", ⟨.root, ["b.csproj"]⟩, "1-f", "2"⟩] := by
  have ended : Ended sampleCut := by
    intro c last
    exact (Option.some.inj (show some '\n' = some c from last)).symm
  have guid : ∀ text ∈ ["1-f", "2"], IsGuid text := by simp [IsGuid, isGuidChar, isHexDigit, isAsciiDigit]
  have wellFormed : sampleEntry.WellFormed := ⟨guid _ (by decide), guid _ (by decide), by decide, by decide⟩
  have read : solutionSample.read "/r/s.sln" = .ok sampleBytes := by decide +kernel
  have spelled : Solution.text sampleBytes = sampleCut ++ sampleText := by decide +kernel
  have sound : ∀ line ∈ sampleLines, line.Sound := by
    have other : ¬ Opens "EndProject".toList := by
      intro opens
      obtain ⟨rest, same⟩ := opens.dropWhile_eq
      exact absurd (congrArg List.head? same) (by simp [isBlank, opening])
    intro line member
    simp only [sampleLines, List.mem_cons, List.not_mem_nil, or_false] at member
    rcases member with rfl | rfl
    · exact ⟨wellFormed, by decide⟩
    · exact ⟨by decide, other⟩
  obtain ⟨separate, between⟩ := entries_separate ended wellFormed sampleSpacing ['!']
  refine ⟨ended, wellFormed, separate, ?_, sound, ?_⟩
  · exact (separate.file solutionSample ⟨.root, ["r", "s.sln"]⟩ sampleBytes read spelled).trans (by decide +kernel)
  · exact (between sampleLines sound _ sampleText).trans (by decide +kernel)

end UsingCensus.Solution
