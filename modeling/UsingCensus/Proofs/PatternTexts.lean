import UsingCensus.Proofs.Matching
import UsingCensus.Wildcard.Parser

/-!
The texts of patterns. `Meets` says what a pattern text stands for, character by character and class by class.
Main statement: it is what reading and matching the pattern decides.
-/
namespace UsingCensus.Wildcard

/-! ### Classes -/

/-- A class lists characters and ranges. -/
inductive ClassItem where
  | single (c : Char)
  | range (low high : Char)
  deriving DecidableEq, Repr

namespace ClassItem

/-- Read from left to right, a hyphen between two characters makes them a range. -/
def read : List Char → List ClassItem
  | low :: '-' :: high :: rest => .range low high :: read rest
  | c :: rest => .single c :: read rest
  | [] => []

def Holds : ClassItem → Char → Prop
  | .single d, c => c = d
  | .range low high, c => low ≤ c ∧ c ≤ high

/-- Is it a range the wrong way round? -/
def isEmpty : ClassItem → Bool
  | .single _ => false
  | .range low high => high < low

def toRange : ClassItem → CharRange
  | .single c => .single c
  | .range low high => ⟨low, high⟩

theorem toRange_holds_iff (item : ClassItem) (c : Char) :
    (item.toRange.low ≤ c ∧ c ≤ item.toRange.high) ↔ item.Holds c := by
  cases item with
  | single d =>
    constructor
    · rintro ⟨above, below⟩
      exact Char.le_antisymm below above
    · rintro rfl
      exact ⟨Char.le_refl _, Char.le_refl _⟩
  | range low high => exact Iff.rfl

end ClassItem

/-- Is the character one of those that the items list? -/
def Listed (items : List ClassItem) (c : Char) : Prop := ∃ item ∈ items, item.Holds c

/-- The characters that items without empty ranges stand for. A `!` in front of them inverts; what is left of a
range that it starts is a hyphen and the range's end. -/
def InItems : List ClassItem → Char → Prop
  | .single '!' :: items, c => ¬ Listed items c
  | .range '!' high :: items, c => ¬ Listed (.single '-' :: .single high :: items) c
  | items, c => Listed items c

/-- The characters that a class stands for: those that it lists, or all others if it starts with `!`. Empty ranges
count for nothing, and what is behind them may come to the front. -/
def InClass (body : List Char) (c : Char) : Prop :=
  match body with
  | '!' :: rest => ¬ Listed (ClassItem.read rest) c
  | _ => InItems ((ClassItem.read body).filter (!·.isEmpty)) c

/-- Put a character in front of the first chunk. -/
def consChunk (c : Char) : List (List Char) → List (List Char)
  | [] => [[c]]
  | chunk :: more => (c :: chunk) :: more

/-- The chunks that items are cut into: each range is cut at its hyphen. -/
def chunksOf : List ClassItem → List (List Char)
  | [] => [[]]
  | .single c :: rest => consChunk c (chunksOf rest)
  | .range low high :: rest => [low] :: consChunk high (chunksOf rest)

/-- There is a first chunk, and only a single one can be empty. -/
theorem exists_chunksOf (items : List ClassItem) :
    ∃ chunk more, chunksOf items = chunk :: more ∧ (chunk = [] → more = []) := by
  cases items with
  | nil => exact ⟨[], [], rfl, fun _ => rfl⟩
  | cons item rest =>
    cases item with
    | single c =>
      unfold chunksOf consChunk
      cases chunksOf rest with
      | nil => exact ⟨[c], [], rfl, fun empty => nomatch empty⟩
      | cons chunk more => exact ⟨c :: chunk, more, rfl, fun empty => nomatch empty⟩
    | range low high => exact ⟨[low], _, rfl, fun empty => nomatch empty⟩

theorem chunks_cons (needed : Nat) (c : Char) (rest : List Char) (joined : ¬ (c = '-' ∧ needed = 0 ∧ rest ≠ [])) :
    chunks needed (c :: rest) = consChunk c (chunks (needed - 1) rest) := by
  rw [chunks, if_neg joined]
  rfl

theorem chunks_zero {rest : List Char} (plain : ∀ high more, rest ≠ '-' :: high :: more) :
    chunks 0 rest = chunks 1 rest := by
  cases rest with
  | nil => rfl
  | cons c rest =>
    have joined : ¬ (c = '-' ∧ 0 = 0 ∧ rest ≠ []) := by
      rintro ⟨rfl, _, some⟩
      obtain ⟨high, more, rfl⟩ := List.exists_cons_of_ne_nil some
      exact plain high more rfl
    rw [chunks_cons 0 c rest joined, chunks_cons 1 c rest (fun cut => nomatch cut.2.1)]

theorem chunks_read (body : List Char) : chunks 1 body = chunksOf (ClassItem.read body) := by
  fun_induction ClassItem.read body with
  | case1 low high rest ih =>
    have joined : chunks 0 ('-' :: high :: rest) = [] :: chunks 2 (high :: rest) := by
      rw [chunks, if_pos ⟨rfl, rfl, List.cons_ne_nil _ _⟩]
    rw [chunks_cons 1 low _ (fun cut => nomatch cut.2.1), Nat.sub_self, joined,
      chunks_cons 2 high rest (fun cut => nomatch cut.2.1), ih]
    rfl
  | case2 c rest plain ih =>
    rw [chunks_cons 1 c rest (fun cut => nomatch cut.2.1), Nat.sub_self, chunks_zero plain, ih]
    rfl
  | case3 => rfl

theorem dropEmptyRanges_cons (c : Char) {chunk : List Char} {more : List (List Char)}
    (filled : chunk = [] → more = []) :
    dropEmptyRanges ((c :: chunk) :: more) = consChunk c (dropEmptyRanges (chunk :: more)) := by
  cases chunk with
  | nil =>
    rw [filled rfl]
    rfl
  | cons d chunk =>
    rw [dropEmptyRanges, dropEmptyRanges]
    cases dropEmptyRanges more with
    | nil => rfl
    | cons next others =>
      obtain ⟨low, last⟩ : ∃ low, (d :: chunk).getLast? = some low := ⟨_, List.getLast?_cons⟩
      rw [List.getLast?_cons_cons, last]
      cases next with
      | nil => rfl
      | cons high next =>
        by_cases wrong : high < low
        · simp [wrong, consChunk]
        · simp [wrong, consChunk]

/-- Dropping the ends of ranges that are the wrong way round drops these ranges. -/
theorem dropEmptyRanges_chunksOf (items : List ClassItem) :
    dropEmptyRanges (chunksOf items) = chunksOf (items.filter (!·.isEmpty)) := by
  induction items with
  | nil => rfl
  | cons item rest ih =>
    obtain ⟨chunk, more, parts, filled⟩ := exists_chunksOf rest
    rw [parts] at ih
    cases item with
    | single c =>
      rw [List.filter_cons_of_pos rfl, chunksOf, chunksOf, parts, ← ih]
      exact dropEmptyRanges_cons c filled
    | range low high =>
      have inner : dropEmptyRanges ((high :: chunk) :: more) =
          consChunk high (chunksOf (rest.filter (!·.isEmpty))) := by
        rw [dropEmptyRanges_cons high filled, ih]
      obtain ⟨first, others, kept, _⟩ := exists_chunksOf (rest.filter (!·.isEmpty))
      rw [chunksOf, parts, consChunk, dropEmptyRanges, inner, kept, consChunk]
      by_cases wrong : high < low
      · have empty : (ClassItem.range low high).isEmpty = true := decide_eq_true wrong
        rw [List.filter_cons_of_neg (by simp [empty]), kept]
        simp [wrong]
      · have proper : (ClassItem.range low high).isEmpty = false := decide_eq_false wrong
        rw [List.filter_cons_of_pos (by simp [proper]), chunksOf, kept]
        simp [wrong, consChunk]

theorem rangesOf_join {first next : List Char} {low high : Char} {more : List (List Char)}
    (last : first.getLast? = some low) :
    rangesOf (first :: (high :: next) :: more) =
      first.dropLast.map .single ++ ⟨low, high⟩ :: rangesOf (next :: more) := by
  conv => lhs; unfold rangesOf
  rw [last]

theorem rangesOf_gap (first : List Char) (more : List (List Char)) :
    rangesOf (first :: [] :: more) = first.map .single ++ .single '-' :: rangesOf ([] :: more) := by
  conv => lhs; unfold rangesOf
  cases first.getLast? <;> rfl

theorem rangesOf_empty (second : List Char) (more : List (List Char)) :
    rangesOf ([] :: second :: more) = .single '-' :: rangesOf (second :: more) := by
  conv => lhs; unfold rangesOf
  rfl

theorem rangesOf_cons (c : Char) {chunk : List Char} {more : List (List Char)} (filled : chunk = [] → more = []) :
    rangesOf ((c :: chunk) :: more) = .single c :: rangesOf (chunk :: more) := by
  cases more with
  | nil => simp [rangesOf]
  | cons second more =>
    cases chunk with
    | nil => cases filled rfl
    | cons d chunk =>
      obtain ⟨low, last⟩ : ∃ low, (d :: chunk).getLast? = some low := ⟨_, List.getLast?_cons⟩
      cases second with
      | nil => rw [rangesOf_gap, rangesOf_gap, List.map_cons, List.cons_append]
      | cons high second =>
        have longer : (c :: d :: chunk).getLast? = some low := by rw [List.getLast?_cons_cons, last]
        rw [rangesOf_join last, rangesOf_join longer, List.dropLast_cons_cons, List.map_cons, List.cons_append]

theorem rangesOf_chunksOf (items : List ClassItem) : rangesOf (chunksOf items) = items.map ClassItem.toRange := by
  induction items with
  | nil => simp [chunksOf, rangesOf]
  | cons item rest ih =>
    obtain ⟨chunk, more, parts, filled⟩ := exists_chunksOf rest
    rw [parts] at ih
    cases item with
    | single c =>
      rw [chunksOf, parts, consChunk, rangesOf_cons c filled, ih]
      rfl
    | range low high =>
      rw [chunksOf, parts, consChunk, rangesOf_join rfl, ih]
      rfl

theorem admits_iff_listed (inverted : Bool) (items : List ClassItem) (c : Char) :
    (Glyph.oneOf inverted (items.map ClassItem.toRange)).admits c = true ↔
      if inverted then ¬ Listed items c else Listed items c := by
  have listed : ((items.map ClassItem.toRange).any fun range => range.low ≤ c && c ≤ range.high) = true ↔
      Listed items c := by
    simp only [List.any_map, List.any_eq_true, Function.comp_apply, Bool.and_eq_true, decide_eq_true_iff,
      ClassItem.toRange_holds_iff, Listed]
  cases inverted with
  | false => simpa [Glyph.admits] using listed
  | true => simpa [Glyph.admits] using not_congr listed

theorem listed_filter_iff (items : List ClassItem) (c : Char) :
    Listed (items.filter (!·.isEmpty)) c ↔ Listed items c := by
  constructor
  · rintro ⟨item, member, holds⟩
    exact ⟨item, (List.mem_filter.mp member).1, holds⟩
  · rintro ⟨item, member, holds⟩
    refine ⟨item, List.mem_filter.mpr ⟨member, ?_⟩, holds⟩
    cases item with
    | single d => rfl
    | range low high =>
      have proper : ¬ high < low := Char.not_lt.mpr (Char.le_trans holds.1 holds.2)
      simp [ClassItem.isEmpty, proper]

theorem rangesOf_read (body : List Char) :
    rangesOf (dropEmptyRanges (chunks 1 body)) =
      ((ClassItem.read body).filter (!·.isEmpty)).map ClassItem.toRange := by
  rw [chunks_read, dropEmptyRanges_chunksOf, rangesOf_chunksOf]

/-- The glyph of chunks: a `!` in front of them inverts. -/
def glyphOf : List (List Char) → Glyph
  | ('!' :: chunk) :: more => .oneOf true (rangesOf (chunk :: more))
  | chunks => .oneOf false (rangesOf chunks)

/-- The glyph that items are cut into stands for the characters that they say. -/
theorem admits_chunksOf_iff (items : List ClassItem) (c : Char) :
    (glyphOf (chunksOf items)).admits c = true ↔ InItems items c := by
  have listed (items : List ClassItem) : (Glyph.oneOf false (rangesOf (chunksOf items))).admits c = true ↔
      Listed items c := by
    rw [rangesOf_chunksOf, admits_iff_listed]
    rfl
  have unlisted (items : List ClassItem) : (Glyph.oneOf true (items.map ClassItem.toRange)).admits c = true ↔
      ¬ Listed items c := by
    rw [admits_iff_listed, if_pos rfl]
  cases items with
  | nil => exact listed []
  | cons item rest =>
    obtain ⟨chunk, more, parts, filled⟩ := exists_chunksOf rest
    have ranges := rangesOf_chunksOf rest
    rw [parts] at ranges
    cases item with
    | single d =>
      have glued : chunksOf (.single d :: rest) = (d :: chunk) :: more := by rw [chunksOf, parts, consChunk]
      by_cases sign : d = '!'
      · subst sign
        rw [glued, glyphOf, ranges, unlisted]
        rfl
      · have all := listed (.single d :: rest)
        rw [glued] at all ⊢
        rw [glyphOf, InItems]
        · exact all
        · rintro _ ⟨⟩
          exact sign rfl
        · rintro _ _ ⟨⟩
        · rintro _ _ ⟨⟩
          exact sign rfl
    | range low high =>
      have glued : chunksOf (.range low high :: rest) = [low] :: (high :: chunk) :: more := by
        rw [chunksOf, parts, consChunk]
      by_cases sign : low = '!'
      · subst sign
        have left : rangesOf ([] :: (high :: chunk) :: more) =
            (.single '-' :: .single high :: rest).map ClassItem.toRange := by
          rw [rangesOf_empty, rangesOf_cons high filled, ranges]
          rfl
        rw [glued, glyphOf, left, unlisted]
        rfl
      · have all := listed (.range low high :: rest)
        rw [glued] at all ⊢
        rw [glyphOf, InItems]
        · exact all
        · rintro _ ⟨⟩
        · rintro _ _ ⟨⟩
          exact sign rfl
        · rintro _ _ ⟨⟩
          exact sign rfl

theorem admits_classOf_iff (body : List Char) (c : Char) : (classOf body).admits c = true ↔ InClass body c := by
  by_cases inverts : ∃ rest, body = '!' :: rest
  · obtain ⟨rest, rfl⟩ := inverts
    have read : classOf ('!' :: rest) = .oneOf true (rangesOf (dropEmptyRanges (chunks 1 rest))) := rfl
    rw [read, rangesOf_read, admits_iff_listed, if_pos rfl, listed_filter_iff]
    rfl
  · have sign (rest : List Char) (same : body = '!' :: rest) : False := inverts ⟨rest, same⟩
    have read : classOf body = glyphOf (dropEmptyRanges (chunks 1 body)) := classOf.eq_2 body sign
    rw [read, InClass.eq_2 body c sign, chunks_read, dropEmptyRanges_chunksOf]
    exact admits_chunksOf_iff _ c

/-! ### Brackets -/

/-- A class holds at least one character after the `!` that may invert it; a bracket closes it only behind that
one. -/
def IsClass (body : List Char) : Prop :=
  ∃ sign first more, body = sign ++ first :: more ∧ (sign = ['!'] ∨ sign = [] ∧ first ≠ '!') ∧ ']' ∉ more

theorem takeWhile_of_ne {c : Char} (opens : c ≠ ']') (cs : List Char) :
    (c :: cs).takeWhile (· ≠ ']') = c :: cs.takeWhile (· ≠ ']') :=
  List.takeWhile_cons_of_pos (by simpa using opens)

theorem length_takeWhile_lt_iff {cs : List Char} : (cs.takeWhile (· ≠ ']')).length < cs.length ↔ ']' ∈ cs := by
  induction cs with
  | nil => simp
  | cons c cs ih =>
    by_cases closes : c = ']'
    · simp [closes]
    · rw [takeWhile_of_ne closes, List.length_cons, List.length_cons,
        Nat.add_lt_add_iff_right, ih, List.mem_cons, or_iff_right (Ne.symm closes)]

theorem bracketBody?_signed {sign : List Char} {first : Char} (rest : List Char)
    (signed : sign = ['!'] ∨ sign = [] ∧ first ≠ '!') :
    bracketBody? (sign ++ first :: rest) =
      if ']' ∈ rest then some (sign ++ first :: rest.takeWhile (· ≠ ']')) else none := by
  have marked : (if (sign ++ first :: rest).head? = some '!' then 1 else 0) = sign.length := by
    rcases signed with rfl | ⟨rfl, plain⟩
    · rfl
    · simp [plain]
  have inner : rest.take (rest.takeWhile (· ≠ ']')).length = rest.takeWhile (· ≠ ']') :=
    (List.prefix_iff_eq_take.mp (List.takeWhile_prefix _)).symm
  unfold bracketBody?
  dsimp only
  rw [marked, List.drop_left]
  by_cases closes : first = ']'
  · have flag : (if (first :: rest).head? = some ']' then 1 else 0) = 1 := by simp [closes]
    rw [flag, List.drop_length_add_append, Nat.add_assoc, List.take_length_add_append, List.drop_succ_cons,
      List.drop_zero, Nat.add_comm 1, List.take_succ_cons, inner]
    simp only [length_takeWhile_lt_iff]
  · have flag : (if (first :: rest).head? = some ']' then 1 else 0) = 0 := by simp [closes]
    rw [flag, Nat.add_zero, List.drop_left, takeWhile_of_ne closes, List.length_cons, List.length_cons,
      List.take_length_add_append, List.take_succ_cons, inner]
    simp only [Nat.add_lt_add_iff_right, length_takeWhile_lt_iff]

theorem takeWhile_of_not_mem {more : List Char} (inside : ']' ∉ more) (rest : List Char) :
    (more ++ ']' :: rest).takeWhile (· ≠ ']') = more := by
  induction more with
  | nil => rfl
  | cons c more ih =>
    rw [List.mem_cons, not_or] at inside
    rw [List.cons_append, takeWhile_of_ne (Ne.symm inside.1), ih inside.2]

theorem bracketBody?_eq_some_iff {cs body : List Char} :
    bracketBody? cs = some body ↔ IsClass body ∧ ∃ rest, cs = body ++ ']' :: rest := by
  constructor
  · intro found
    have parts : ∃ sign first rest, cs = sign ++ first :: rest ∧ (sign = ['!'] ∨ sign = [] ∧ first ≠ '!') := by
      cases cs with
      | nil => cases found
      | cons c rest =>
        by_cases sign : c = '!'
        · subst sign
          cases rest with
          | nil => cases found
          | cons first rest => exact ⟨['!'], first, rest, rfl, .inl rfl⟩
        · exact ⟨[], c, rest, rfl, .inr ⟨rfl, sign⟩⟩
    obtain ⟨sign, first, rest, rfl, signed⟩ := parts
    rw [bracketBody?_signed rest signed] at found
    split at found
    · rename_i closed
      obtain ⟨more, behind, rfl, inside⟩ := List.eq_append_cons_of_mem closed
      rw [takeWhile_of_not_mem inside] at found
      cases found
      exact ⟨⟨sign, first, more, rfl, signed, inside⟩, behind, by simp⟩
    · cases found
  · rintro ⟨⟨sign, first, more, rfl, signed, inside⟩, rest, rfl⟩
    have closed : ']' ∈ more ++ ']' :: rest := by simp
    rw [List.append_assoc, List.cons_append, bracketBody?_signed _ signed, if_pos closed, takeWhile_of_not_mem inside]

/-! ### Patterns -/

/-- What a pattern text stands for. -/
inductive Meets : List Char → List Char → Prop where
  | done : Meets [] []
  | star {pattern cs : List Char} (run : List Char) (rest : Meets pattern cs) : Meets ('*' :: pattern) (run ++ cs)
  | one {pattern cs : List Char} (c : Char) (rest : Meets pattern cs) : Meets ('?' :: pattern) (c :: cs)
  | oneOf {body pattern cs : List Char} {c : Char} (proper : IsClass body) (listed : InClass body c)
      (rest : Meets pattern cs) : Meets ('[' :: (body ++ ']' :: pattern)) (c :: cs)
  | bracket {pattern cs : List Char} (unclosed : ∀ body behind, pattern = body ++ ']' :: behind → ¬ IsClass body)
      (rest : Meets pattern cs) : Meets ('[' :: pattern) ('[' :: cs)
  | self {c : Char} {pattern cs : List Char} (plain : c ≠ '*' ∧ c ≠ '?' ∧ c ≠ '[') (rest : Meets pattern cs) :
      Meets (c :: pattern) (c :: cs)

theorem matches_consAny_iff {rest : Wildcard} {cs : List Char} :
    Matches (consAny rest) cs ↔ Matches (.any :: rest) cs := by
  cases rest with
  | nil => rfl
  | cons glyph rest =>
    cases glyph with
    | any =>
      rw [consAny, matches_any_iff, matches_any_iff]
      constructor
      · rintro ⟨run, back, rfl, met⟩
        exact ⟨run, back, rfl, .none met⟩
      · rintro ⟨run, behind, rfl, met⟩
        obtain ⟨more, back, rfl, inner⟩ := matches_any_iff.mp met
        exact ⟨run ++ more, back, by rw [List.append_assoc], inner⟩
    | one => rfl
    | oneOf inverted ranges => rfl
    | literal c => rfl

theorem meets_nil_iff {cs : List Char} : Meets [] cs ↔ cs = [] := by
  constructor
  · intro met
    cases met
    rfl
  · rintro rfl
    exact .done

theorem meets_star_iff {pattern cs : List Char} :
    Meets ('*' :: pattern) cs ↔ ∃ run back, cs = run ++ back ∧ Meets pattern back := by
  constructor
  · intro met
    cases met with
    | star run rest => exact ⟨run, _, rfl, rest⟩
    | self plain _ => exact absurd rfl plain.1
  · rintro ⟨run, back, rfl, met⟩
    exact .star run met

theorem meets_one_iff {pattern cs : List Char} :
    Meets ('?' :: pattern) cs ↔ ∃ c back, cs = c :: back ∧ Meets pattern back := by
  constructor
  · intro met
    cases met with
    | one c rest => exact ⟨c, _, rfl, rest⟩
    | self plain _ => exact absurd rfl plain.2.1
  · rintro ⟨c, back, rfl, met⟩
    exact .one c met

theorem meets_class_iff {body pattern cs : List Char} (proper : IsClass body) :
    Meets ('[' :: (body ++ ']' :: pattern)) cs ↔ ∃ c back, cs = c :: back ∧ InClass body c ∧ Meets pattern back := by
  constructor
  · intro met
    generalize whole : body ++ ']' :: pattern = tail at met
    cases met with
    | @oneOf other behind back c again listed rest =>
      -- a text is closed by one bracket only
      have first := bracketBody?_eq_some_iff.mpr ⟨proper, pattern, rfl⟩
      have second := bracketBody?_eq_some_iff.mpr ⟨again, behind, rfl⟩
      rw [whole, second] at first
      cases first
      cases List.append_cancel_left whole
      exact ⟨c, back, rfl, listed, rest⟩
    | bracket unclosed _ => exact absurd proper (unclosed body pattern whole.symm)
    | self plain _ => exact absurd rfl plain.2.2
  · rintro ⟨c, back, rfl, listed, met⟩
    exact .oneOf proper listed met

theorem meets_bracket_iff {pattern cs : List Char}
    (unclosed : ∀ body behind, pattern = body ++ ']' :: behind → ¬ IsClass body) :
    Meets ('[' :: pattern) cs ↔ ∃ back, cs = '[' :: back ∧ Meets pattern back := by
  constructor
  · intro met
    cases met with
    | oneOf proper _ _ => exact absurd proper (unclosed _ _ rfl)
    | bracket _ rest => exact ⟨_, rfl, rest⟩
    | self plain _ => exact absurd rfl plain.2.2
  · rintro ⟨back, rfl, met⟩
    exact .bracket unclosed met

theorem meets_self_iff {c : Char} {pattern cs : List Char} (plain : c ≠ '*' ∧ c ≠ '?' ∧ c ≠ '[') :
    Meets (c :: pattern) cs ↔ ∃ back, cs = c :: back ∧ Meets pattern back := by
  constructor
  · intro met
    cases met with
    | star _ _ => exact absurd rfl plain.1
    | one _ _ => exact absurd rfl plain.2.1
    | oneOf _ _ _ => exact absurd rfl plain.2.2
    | bracket _ _ => exact absurd rfl plain.2.2
    | self _ rest => exact ⟨_, rfl, rest⟩
  · rintro ⟨back, rfl, met⟩
    exact .self plain met

theorem matches_literal_iff {c : Char} {rest : Wildcard} {cs : List Char} :
    Matches (.literal c :: rest) cs ↔ ∃ back, cs = c :: back ∧ Matches rest back := by
  rw [matches_single_iff (by simp)]
  constructor
  · rintro ⟨d, back, rfl, same, met⟩
    cases of_decide_eq_true same
    exact ⟨back, rfl, met⟩
  · rintro ⟨back, rfl, met⟩
    exact ⟨c, back, rfl, decide_eq_true rfl, met⟩

theorem classOf_ne_any (body : List Char) : classOf body ≠ .any := by
  unfold classOf
  split
  · simp
  · split <;> simp

theorem matches_ofChars_iff (pattern cs : List Char) : Matches (ofChars pattern) cs ↔ Meets pattern cs := by
  fun_induction ofChars pattern generalizing cs with
  | case1 => rw [matches_nil_iff, meets_nil_iff]
  | case2 rest ih => simp only [matches_consAny_iff, matches_any_iff, meets_star_iff, ih]
  | case3 rest ih =>
    rw [matches_single_iff (by simp), meets_one_iff]
    simp only [Glyph.admits, true_and, ih]
  | case4 rest body found ih =>
    obtain ⟨proper, behind, rfl⟩ := bracketBody?_eq_some_iff.mp found
    have after : (body ++ ']' :: behind).drop (body.length + 1) = behind := List.drop_length_add_append 1
    rw [after] at ih ⊢
    rw [matches_single_iff (classOf_ne_any body), meets_class_iff proper]
    simp only [admits_classOf_iff, ih]
  | case5 rest none ih =>
    have unclosed (body behind : List Char) (whole : rest = body ++ ']' :: behind) (proper : IsClass body) : False := by
      rw [bracketBody?_eq_some_iff.mpr ⟨proper, behind, whole⟩] at none
      cases none
    simp only [matches_literal_iff, meets_bracket_iff unclosed, ih]
  | case6 c rest star one bracket ih => simp only [matches_literal_iff, meets_self_iff ⟨star, one, bracket⟩, ih]

theorem covers_iff_meets (pattern text : String) : covers pattern text = true ↔ Meets pattern.toList text.toList := by
  rw [covers, accepts_iff_matches, matches_ofChars_iff]

/-! ### Patterns with a slash -/

/-- A slash and what follows it close no class of the pattern before them. -/
theorem bracketBody?_append {cs tail : List Char} (unclosing : ']' ∉ tail) :
    bracketBody? (cs ++ tail) = bracketBody? cs := by
  apply Option.ext
  intro body
  rw [bracketBody?_eq_some_iff, bracketBody?_eq_some_iff, and_congr_right_iff]
  intro _
  constructor
  · rintro ⟨behind, whole⟩
    rcases List.append_eq_append_iff.mp whole with ⟨left, _, after⟩ | ⟨left, same, after⟩
    · exact absurd (after ▸ List.mem_append_right left List.mem_cons_self) unclosing
    · cases left with
      | nil =>
        rw [List.nil_append] at after
        exact absurd (after ▸ List.mem_cons_self) unclosing
      | cons c left =>
        cases (List.cons.inj after).1
        exact ⟨left, same⟩
  · rintro ⟨behind, rfl⟩
    exact ⟨behind ++ tail, by simp⟩

theorem consAny_append {front back : Wildcard} (start : back.head? ≠ some .any) :
    consAny (front ++ back) = consAny front ++ back := by
  cases front with
  | nil =>
    cases back with
    | nil => rfl
    | cons glyph back => cases glyph <;> first | rfl | exact absurd rfl start
  | cons glyph front => cases glyph <;> rfl

theorem ofChars_append_slash (front : List Char) {tail : List Char} (unclosing : ']' ∉ tail) :
    ofChars (front ++ '/' :: tail) = ofChars front ++ ofChars ('/' :: tail) := by
  have closes : ']' ∉ '/' :: tail := by simp [unclosing]
  have start : (ofChars ('/' :: tail)).head? ≠ some .any := by simp [ofChars]
  fun_induction ofChars front with
  | case1 => rfl
  | case2 rest ih => rw [List.cons_append, ofChars, ih, consAny_append start]
  | case3 rest ih => rw [List.cons_append, ofChars, ih, List.cons_append]
  | case4 rest body found ih =>
    obtain ⟨_, behind, rfl⟩ := bracketBody?_eq_some_iff.mp found
    have after (cs : List Char) : (body ++ ']' :: cs).drop (body.length + 1) = cs := List.drop_length_add_append 1
    rw [after] at ih
    rw [List.cons_append, ofChars, bracketBody?_append closes, found]
    dsimp only
    rw [after, List.append_assoc, List.cons_append, after, ih, List.cons_append]
  | case5 rest none ih =>
    rw [List.cons_append, ofChars, bracketBody?_append closes, none]
    dsimp only
    rw [ih, List.cons_append]
  | case6 c rest star one bracket ih =>
    rw [List.cons_append, ofChars, ih, List.cons_append]
    · exact star
    · exact one
    · exact bracket

/-- A pattern for all that lies below what another pattern stands for. -/
theorem meets_below_iff {pattern cs : List Char} :
    Meets (pattern ++ ['/', '*', '*']) cs ↔ ∃ front rest, cs = front ++ '/' :: rest ∧ Meets pattern front := by
  have tail (back : List Char) : Meets ['/', '*', '*'] back ↔ ∃ rest, back = '/' :: rest := by
    rw [meets_self_iff (by decide)]
    constructor
    · rintro ⟨rest, rfl, _⟩
      exact ⟨rest, rfl⟩
    · rintro ⟨rest, rfl⟩
      have all : Meets ['*', '*'] ([] ++ (rest ++ [])) := .star [] (.star rest .done)
      rw [List.nil_append, List.append_nil] at all
      exact ⟨rest, rfl, all⟩
  rw [← matches_ofChars_iff, ofChars_append_slash pattern (by decide), matches_append_iff]
  simp only [matches_ofChars_iff, tail]
  constructor
  · rintro ⟨front, _, rfl, met, rest, rfl⟩
    exact ⟨front, rest, rfl, met⟩
  · rintro ⟨front, rest, rfl, met⟩
    exact ⟨front, '/' :: rest, rfl, met, rest, rfl⟩

/-- No class in the pattern is closed. -/
def Classless (pattern : List Char) : Prop :=
  ∀ front body behind, pattern = front ++ '[' :: (body ++ ']' :: behind) → ¬ IsClass body

/-- No character of the pattern stands for anything but itself. -/
def Plain (pattern : List Char) : Prop := '*' ∉ pattern ∧ '?' ∉ pattern ∧ Classless pattern

theorem Classless.tail {c : Char} {pattern : List Char} (classless : Classless (c :: pattern)) : Classless pattern :=
  fun front body behind same => classless (c :: front) body behind (by rw [same, List.cons_append])

theorem Plain.tail {c : Char} {pattern : List Char} (plain : Plain (c :: pattern)) : Plain pattern :=
  ⟨fun member => plain.1 (List.mem_cons_of_mem c member), fun member => plain.2.1 (List.mem_cons_of_mem c member),
    plain.2.2.tail⟩

theorem Plain.cons {c : Char} {pattern : List Char} (here : c ≠ '*' ∧ c ≠ '?' ∧ c ≠ '[') (plain : Plain pattern) :
    Plain (c :: pattern) := by
  refine ⟨?_, ?_, ?_⟩
  · rw [List.mem_cons, not_or]
    exact ⟨Ne.symm here.1, plain.1⟩
  · rw [List.mem_cons, not_or]
    exact ⟨Ne.symm here.2.1, plain.2.1⟩
  · intro front body behind same
    cases front with
    | nil => exact absurd (List.cons.inj same).1 here.2.2
    | cons d front => exact plain.2.2 front body behind (List.cons.inj same).2

theorem Plain.bracket {pattern : List Char}
    (unclosed : ∀ body behind, pattern = body ++ ']' :: behind → ¬ IsClass body) (plain : Plain pattern) :
    Plain ('[' :: pattern) := by
  refine ⟨?_, ?_, ?_⟩
  · rw [List.mem_cons, not_or]
    exact ⟨by decide, plain.1⟩
  · rw [List.mem_cons, not_or]
    exact ⟨by decide, plain.2.1⟩
  · intro front body behind same
    cases front with
    | nil => exact unclosed body behind (List.cons.inj same).2
    | cons d front => exact plain.2.2 front body behind (List.cons.inj same).2

/-- Without classes a pattern stands for its own text, too. -/
theorem meets_own {pattern : List Char} (classless : Classless pattern) : Meets pattern pattern := by
  induction pattern with
  | nil => exact .done
  | cons c pattern ih =>
    have rest := ih classless.tail
    by_cases star : c = '*'
    · subst star
      exact .star ['*'] rest
    · by_cases one : c = '?'
      · subst one
        exact .one '?' rest
      · by_cases bracket : c = '['
        · subst bracket
          exact .bracket (fun body behind same => classless [] body behind (by rw [same, List.nil_append])) rest
        · exact .self ⟨star, one, bracket⟩ rest

theorem Plain.meets_iff {pattern cs : List Char} (plain : Plain pattern) : Meets pattern cs ↔ cs = pattern := by
  constructor
  · intro met
    induction met with
    | done => rfl
    | star _ _ _ => exact absurd List.mem_cons_self plain.1
    | one _ _ _ => exact absurd List.mem_cons_self plain.2.1
    | @oneOf body pattern _ _ proper _ _ _ => exact absurd proper (plain.2.2 [] body pattern rfl)
    | bracket _ _ ih => rw [ih plain.tail]
    | self _ _ ih => rw [ih plain.tail]
  · rintro rfl
    exact meets_own plain.2.2

/-- A pattern that stands for anything stands for a text that is no longer, and that is its own text only if it is
plain. -/
theorem exists_short {pattern cs : List Char} (met : Meets pattern cs) :
    ∃ short, Meets pattern short ∧ short.length ≤ pattern.length ∧ (short = pattern → Plain pattern) := by
  induction met with
  | done => exact ⟨[], .done, Nat.le_refl _, fun _ => ⟨by simp, by simp, fun _ _ _ same => by simp at same⟩⟩
  | star run _ ih =>
    obtain ⟨short, met, bound, _⟩ := ih
    refine ⟨short, .star [] met, Nat.le_succ_of_le bound, fun same => ?_⟩
    rw [same, List.length_cons] at bound
    omega
  | one c _ ih =>
    obtain ⟨short, met, bound, _⟩ := ih
    refine ⟨'a' :: short, .one 'a' met, Nat.succ_le_succ bound, fun same => ?_⟩
    exact absurd (List.cons.inj same).1 (by decide)
  | @oneOf body pattern _ c proper listed _ ih =>
    obtain ⟨short, met, bound, _⟩ := ih
    have shorter : (c :: short).length < ('[' :: (body ++ ']' :: pattern)).length := by
      simp only [List.length_cons, List.length_append]
      omega
    refine ⟨c :: short, .oneOf proper listed met, Nat.le_of_lt shorter, fun same => ?_⟩
    rw [same] at shorter
    exact absurd shorter (Nat.lt_irrefl _)
  | bracket unclosed _ ih =>
    obtain ⟨short, met, bound, own⟩ := ih
    refine ⟨'[' :: short, .bracket unclosed met, Nat.succ_le_succ bound, fun same => ?_⟩
    exact (own (List.cons.inj same).2).bracket unclosed
  | self here _ ih =>
    obtain ⟨short, met, bound, own⟩ := ih
    refine ⟨_ :: short, .self here met, Nat.succ_le_succ bound, fun same => ?_⟩
    exact (own (List.cons.inj same).2).cons here

end UsingCensus.Wildcard
