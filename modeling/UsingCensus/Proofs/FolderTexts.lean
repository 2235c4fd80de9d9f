import UsingCensus.Proofs.Following
import UsingCensus.Wildcard.Expansion

namespace UsingCensus

namespace Text

theorem splitAt_joinWith_append {separator : Char} {parts : List (List Char)} (some : parts ≠ [])
    (absent : ∀ part ∈ parts, separator ∉ part) (rest : List Char) :
    splitAt separator (joinWith separator parts ++ separator :: rest) = parts ++ splitAt separator rest := by
  induction parts with
  | nil => exact absurd rfl some
  | cons part more ih =>
    have here := absent part List.mem_cons_self
    cases more with
    | nil => exact splitAt_append here rest
    | cons next others =>
      have later := ih (by simp) fun other member => absent other (List.mem_cons_of_mem _ member)
      rw [joinWith_cons_of_ne_nil (by simp), List.append_assoc, List.cons_append, splitAt_append here, later]
      rfl

theorem joinWith_append {separator : Char} {first second : List (List Char)} (some : first ≠ [])
    (also : second ≠ []) : joinWith separator (first ++ second) =
      joinWith separator first ++ separator :: joinWith separator second := by
  induction first with
  | nil => exact absurd rfl some
  | cons part rest ih =>
    cases rest with
    | nil => exact joinWith_cons_of_ne_nil also
    | cons next more =>
      have later := ih (by simp)
      have here : joinWith separator (part :: (next :: more)) = _ := joinWith_cons_of_ne_nil (by simp)
      rw [here, List.cons_append, joinWith_cons_of_ne_nil (by simp), later, List.append_assoc, List.cons_append]

def trimEnd (separator : Char) (cs : List Char) : List Char :=
  (cs.reverse.dropWhile (· = separator)).reverse

theorem trimEnd_append {separator c : Char} {first : List Char} (last : first.getLast? = some c)
    (different : c ≠ separator) (second : List Char) :
    trimEnd separator (first ++ second) = first ++ trimEnd separator second := by
  obtain ⟨before, rfl⟩ := List.getLast?_eq_some_iff.mp last
  have kept : (before ++ [c]).reverse.dropWhile (· = separator) = (before ++ [c]).reverse := by
    rw [List.reverse_append, List.reverse_singleton, List.singleton_append]
    exact List.dropWhile_cons_of_neg (by simpa using different)
  unfold trimEnd
  rw [List.reverse_append, List.dropWhile_append, kept]
  split
  · rename_i gone
    rw [List.isEmpty_iff.mp gone, List.reverse_reverse, List.reverse_nil, List.append_nil]
  · rw [List.reverse_append, List.reverse_reverse]

theorem append_lt_append_iff {α : Type} [LT α] [Std.Irrefl fun a b : α => a < b] (common first second : List α) :
    common ++ first < common ++ second ↔ first < second := by
  induction common with
  | nil => exact Iff.rfl
  | cons c rest ih => rw [List.cons_append, List.cons_append, List.cons_lt_cons_self, ih]

theorem Utf8.length_ofString_append (first second : String) :
    (ofString (first ++ second)).length = (ofString first).length + (ofString second).length := by
  unfold ofString encode
  rw [String.toList_append, List.flatMap_append, List.length_append]

end Text

namespace Path

/-- A text that can follow the path of a folder. -/
def Continues (text : String) : Prop := text = "" ∨ ∃ rest, text = "/" ++ rest

theorem Continues.append {first second : String} (continues : Continues first) (also : Continues second) :
    Continues (first ++ second) := by
  rcases continues with rfl | ⟨rest, rfl⟩
  · rwa [String.empty_append]
  · exact .inr ⟨rest ++ second, String.append_assoc⟩

/-- An absolute path of names. -/
structure IsFolder (folder : Path) : Prop where
  absolute : folder.isAbsolute = true
  filled : folder.parts ≠ []
  legal : ∀ name ∈ folder.parts, FileTree.Legal name

variable {folder : Path} {text : String}

theorem IsFolder.proper (isFolder : folder.IsFolder) : folder.Proper := fun part member =>
  ⟨(isFolder.legal part member).1, (isFolder.legal part member).2.1⟩

theorem IsFolder.append_ne_empty (isFolder : folder.IsFolder) (text : String) : folder.toString ++ text ≠ "" := by
  intro empty
  have none := congrArg String.toList empty
  rw [String.toList_append, String.toList_empty, List.append_eq_nil_iff] at none
  exact Surroundings.toString_ne_empty isFolder.proper (String.toList_eq_nil_iff.mp none.1)

theorem pieces_slash (rest : String) : pieces ("/" ++ rest) = "" :: pieces rest := by
  unfold pieces
  rw [String.toList_append]
  rfl

theorem IsFolder.pieces_append (isFolder : folder.IsFolder) (continues : Continues text) :
    pieces (folder.toString ++ text) =
      List.replicate folder.anchor.text.length "" ++ folder.parts ++ (pieces text).tail := by
  have filled : folder.parts.map String.toList ≠ [] := by simpa using isFolder.filled
  have absent : ∀ part ∈ folder.parts.map String.toList, '/' ∉ part := by
    intro cs member
    obtain ⟨part, listed, rfl⟩ := List.mem_map.mp member
    exact (isFolder.proper part listed).2
  have back : (folder.parts.map String.toList).map String.ofList = folder.parts := by
    rw [List.map_map]
    exact (List.map_congr_left fun part _ => String.ofList_toList).trans (List.map_id _)
  have slashes (cs : List Char) : (Text.splitAt '/' (folder.anchor.text.toList ++ cs)).map String.ofList =
      List.replicate folder.anchor.text.length "" ++ (Text.splitAt '/' cs).map String.ofList := by
    cases folder.anchor with
    | here => rfl
    | root => rfl
    | doubleRoot => rfl
  have cut : (Text.splitAt '/' (Text.joinWith '/' (folder.parts.map String.toList) ++ text.toList)).map
      String.ofList = folder.parts ++ (pieces text).tail := by
    rcases continues with rfl | ⟨rest, rfl⟩
    · have empty : (pieces "").tail = [] := rfl
      rw [empty, List.append_nil, String.toList_empty, List.append_nil, Text.splitAt_joinWith filled absent, back]
    · rw [pieces_slash, List.tail_cons, String.toList_append]
      change (Text.splitAt '/' (_ ++ '/' :: rest.toList)).map String.ofList = _
      rw [Text.splitAt_joinWith_append filled absent, List.map_append, back]
      rfl
  unfold pieces at cut ⊢
  rw [String.toList_append, folder.toList_toString isFolder.filled, List.append_assoc, slashes, cut,
    List.append_assoc]

theorem IsFolder.endsIn_append (isFolder : folder.IsFolder) (continues : Continues text) :
    Text.endsIn (folder.toString ++ text) "/" = Text.endsIn text "/" := by
  rcases continues with rfl | ⟨rest, rfl⟩
  · rw [String.append_empty]
    exact isFolder.proper.endsIn isFolder.filled
  · have ending (cs : List Char) : ['/'].isSuffixOf (cs ++ '/' :: rest.toList) =
        ['/'].isSuffixOf ('/' :: rest.toList) := by
      rw [Bool.eq_iff_iff, List.isSuffixOf_iff_suffix, List.isSuffixOf_iff_suffix]
      constructor
      · intro suffix
        exact List.suffix_of_suffix_length_le suffix (List.suffix_append _ _) (by simp)
      · intro suffix
        exact suffix.trans (List.suffix_append _ _)
    unfold Text.endsIn
    rw [String.toList_append, String.toList_append]
    exact ending _

private theorem filter_replicate_empty {keep : String → Bool} (drop : keep "" = false) (slashes : Nat) :
    (List.replicate slashes "").filter keep = [] := by
  refine List.filter_eq_nil_iff.mpr fun piece member => ?_
  rw [List.eq_of_mem_replicate member, drop]
  exact Bool.false_ne_true

private theorem filter_tail_pieces {keep : String → Bool} (drop : keep "" = false) (continues : Continues text) :
    (pieces text).tail.filter keep = (pieces text).filter keep := by
  rcases continues with rfl | ⟨rest, rfl⟩
  · change [] = [""].filter keep
    simp [drop]
  · rw [pieces_slash, List.tail_cons, List.filter_cons_of_neg (by simp [drop])]

theorem IsFolder.steps_append (isFolder : folder.IsFolder) (continues : Continues text) :
    FileTree.steps (folder.toString ++ text) = folder.parts ++ FileTree.steps text := by
  have kept : folder.parts.filter (· ≠ "") = folder.parts := by
    refine List.filter_eq_self.mpr fun part member => ?_
    have filled := (isPart_iff.mp (isFolder.proper part member).1).1
    simpa using filled
  unfold FileTree.steps
  rw [isFolder.pieces_append continues, isFolder.endsIn_append continues, List.filter_append, List.filter_append,
    filter_replicate_empty (by rfl), filter_tail_pieces (by rfl) continues, kept, List.nil_append]
  dsimp only
  split
  · rw [List.append_assoc]
  · rfl

private theorem IsFolder.anchorOf_append (isFolder : folder.IsFolder) (text : String) :
    anchorOf (folder.toString ++ text) = folder.anchor := by
  obtain ⟨c, more, joined, different⟩ := isFolder.proper.exists_joinWith isFolder.filled
  have absolute := isFolder.absolute
  unfold anchorOf
  rw [String.toList_append, folder.toList_toString isFolder.filled, joined]
  cases anchor : folder.anchor with
  | here => simp [isAbsolute, anchor] at absolute
  | root => simp [Anchor.text, different]
  | doubleRoot => simp [Anchor.text, different]

theorem IsFolder.ofString_append (isFolder : folder.IsFolder) (continues : Continues text) :
    ofString (folder.toString ++ text) = ⟨folder.anchor, folder.parts ++ (ofString text).parts⟩ := by
  have kept : folder.parts.filter isPart = folder.parts :=
    List.filter_eq_self.mpr fun part member => (isFolder.proper part member).1
  have parts : (pieces (folder.toString ++ text)).filter isPart = folder.parts ++ (pieces text).filter isPart := by
    rw [isFolder.pieces_append continues, List.filter_append, List.filter_append,
      filter_replicate_empty (by rfl), filter_tail_pieces (by rfl) continues, kept, List.nil_append]
  unfold ofString
  rw [parts, isFolder.anchorOf_append]

/-- The text of names below a folder. -/
def trail (names : List String) : String := if names = [] then "" else (Path.mk .root names).toString

theorem trail_cons (name : String) : trail [name] = "/" ++ name := by
  refine String.toList_inj.mp ?_
  rw [trail, if_neg (by simp), toList_toString _ (by simp), String.toList_append]
  rfl

theorem continues_trail (names : List String) : Continues (trail names) := by
  unfold trail
  split
  · exact .inl rfl
  · rename_i some
    unfold Path.toString
    rw [if_neg (fun both => some both.2)]
    exact .inr ⟨_, rfl⟩

theorem steps_trail {names : List String} (proper : (Path.mk .root names).Proper) :
    FileTree.steps (trail names) = names := by
  unfold trail
  split
  · rename_i none
    rw [none]
    rfl
  · rename_i some
    exact proper.steps some

theorem IsFolder.toString_append (isFolder : folder.IsFolder) (names : List String) :
    (Path.mk folder.anchor (folder.parts ++ names)).toString = folder.toString ++ trail names := by
  unfold trail
  split
  · rename_i none
    rw [none, List.append_nil, String.append_empty]
  · rename_i some
    refine String.toList_inj.mp ?_
    rw [String.toList_append, toList_toString _ (by simp [some]), toList_toString _ isFolder.filled,
      toList_toString _ some, List.map_append, Text.joinWith_append (by simpa using isFolder.filled)
      (by simpa using some), List.append_assoc]
    have slash : Anchor.root.text.toList = ['/'] := rfl
    rw [slash, List.singleton_append]

theorem append_lt_append_iff (folder : Path) (first second : String) :
    folder.toString ++ first < folder.toString ++ second ↔ first < second := by
  rw [String.lt_iff, String.lt_iff, String.toList_append, String.toList_append, Text.append_lt_append_iff]

/-! ### Normal forms -/

/-- Parts that lead up no further than where they start. -/
def StaysBelow (parts : List String) : Prop := ".." ∉ normalParts false parts

/-- A way up that nothing cancels is never cancelled. -/
theorem mem_pushPart_of_mem {done : List String} (stuck : ".." ∈ done) (part : String) :
    ".." ∈ pushPart false done part := by
  unfold pushPart
  by_cases up : part = ".."
  · rw [if_pos up]
    cases done with
    | nil => cases stuck
    | cons last before =>
      by_cases dots : last = ".."
      · simp only [if_pos dots]
        exact List.mem_cons_self
      · simp only [if_neg dots]
        exact (List.mem_cons.mp stuck).resolve_left (Ne.symm dots)
  · rw [if_neg up]
    exact List.mem_cons_of_mem _ stuck

theorem mem_foldl_pushPart_of_mem {done : List String} (stuck : ".." ∈ done) (parts : List String) :
    ".." ∈ parts.foldl (pushPart false) done := by
  induction parts generalizing done with
  | nil => exact stuck
  | cons part rest ih => exact ih (mem_pushPart_of_mem stuck part)

/-- A part that leads up no further than the names that were pushed does the same above a base. -/
theorem pushPart_append {done : List String} {part : String} (stays : ".." ∉ pushPart false done part)
    (base : List String) : pushPart true (done ++ base) part = pushPart false done part ++ base := by
  unfold pushPart at stays ⊢
  by_cases up : part = ".."
  · rw [if_pos up] at stays
    rw [if_pos up, if_pos up]
    cases done with
    | nil => exact absurd List.mem_cons_self stays
    | cons last before =>
      have named : last ≠ ".." := by
        intro dots
        simp only [if_pos dots] at stays
        exact stays List.mem_cons_self
      simp only [List.cons_append, if_neg named]
  · rw [if_neg up, if_neg up, List.cons_append]

theorem foldl_pushPart_append {parts done : List String}
    (stays : ".." ∉ parts.foldl (pushPart false) done) (base : List String) :
    parts.foldl (pushPart true) (done ++ base) = parts.foldl (pushPart false) done ++ base := by
  induction parts generalizing done with
  | nil => rfl
  | cons part rest ih =>
    have first : ".." ∉ pushPart false done part := fun stuck => stays (mem_foldl_pushPart_of_mem stuck rest)
    rw [List.foldl_cons, List.foldl_cons, pushPart_append first, ih stays]

theorem normalParts_append {base parts : List String} (down : ".." ∉ base) (stays : StaysBelow parts) :
    normalParts true (base ++ parts) = base ++ normalParts false parts := by
  have names : base.foldl (pushPart true) [] = [] ++ base.reverse := by
    rw [foldl_pushPart_names down, List.append_nil, List.nil_append]
  have held : ".." ∉ parts.foldl (pushPart false) [] := fun member => stays (List.mem_reverse.mpr member)
  unfold normalParts
  rw [List.foldl_append, names, foldl_pushPart_append held, List.reverse_append, List.reverse_reverse]

theorem IsFolder.normal_append (isFolder : folder.IsFolder) {parts : List String} (stays : StaysBelow parts) :
    (Path.mk folder.anchor (folder.parts ++ parts)).normal =
      ⟨folder.anchor, folder.parts ++ normalParts false parts⟩ := by
  have down : ".." ∉ folder.parts := fun member => (isFolder.legal _ member).2.2.1 rfl
  have absolute : (Path.mk folder.anchor (folder.parts ++ parts)).isAbsolute = true := isFolder.absolute
  unfold normal
  rw [absolute, normalParts_append down stays]

end Path

/-! ### Patterns -/

namespace Wildcard

open UsingCensus.Path

variable {folder : Path} {text name : String}

/-- What follows a folder in the text of a name below it. -/
def extend (text name : String) : String :=
  if name = "" && Text.endsIn text "/" then text
  else if Text.endsIn text "/" then text ++ name
  else text ++ "/" ++ name

theorem below_append (isFolder : folder.IsFolder) (continues : Continues text) (name : String) :
    below (folder.toString ++ text) name = folder.toString ++ extend text name := by
  unfold below extend
  rw [if_neg (isFolder.append_ne_empty text), isFolder.endsIn_append continues]
  split
  · rfl
  · split
    · rw [String.append_assoc]
    · rw [String.append_assoc, String.append_assoc, String.append_assoc]

theorem extend_empty (name : String) : extend "" name = "/" ++ name := by
  have blank : Text.endsIn "" "/" = false := by decide
  unfold extend
  simp only [blank, Bool.and_false, Bool.false_eq_true, if_false, String.empty_append]

/-- What the plain pieces in front of the first wildcard add to a folder. -/
def plainTail (part : String) : String :=
  let plain := (pieces part).takeWhile (!isPattern ·)
  String.ofList (Text.trimEnd '/'
    (if plain = [] then [] else '/' :: Text.joinWith '/' (plain.map String.toList)))

/-- The pieces from the first wildcard on. -/
def patternTail (part : String) : List String :=
  let rest := (pieces part).drop ((pieces part).takeWhile (!isPattern ·)).length
  rest.filter (· ≠ "") ++ if rest.getLast? = some "" then [""] else []

theorem isPattern_of_mem {part : String} {path : Path} (plain : isPattern path.toString = false)
    (member : part ∈ path.parts) : isPattern part = false := by
  unfold isPattern at plain ⊢
  rw [List.any_eq_false] at plain ⊢
  intro c inside
  by_cases slash : c = '/'
  · subst slash
    decide
  by_cases dot : c = '.'
  · subst dot
    decide
  exact plain c ((mem_toString_iff ⟨slash, dot⟩).mpr ⟨part, member, inside⟩)

private theorem joinWith_front (isFolder : folder.IsFolder) (plain : List String) :
    Text.joinWith '/' ((List.replicate folder.anchor.text.length "" ++ folder.parts ++ plain).map String.toList) =
      folder.toString.toList ++ if plain = [] then [] else '/' :: Text.joinWith '/' (plain.map String.toList) := by
  have filled : folder.parts.map String.toList ≠ [] := by simpa using isFolder.filled
  have front : Text.joinWith '/' ((List.replicate folder.anchor.text.length "" ++ folder.parts).map String.toList) =
      folder.toString.toList := by
    rw [folder.toList_toString isFolder.filled, List.map_append]
    generalize folder.parts.map String.toList = names at filled
    have absolute := isFolder.absolute
    cases anchor : folder.anchor with
    | here => simp [isAbsolute, anchor] at absolute
    | root => exact Text.joinWith_cons_of_ne_nil filled
    | doubleRoot =>
      change Text.joinWith '/' ([] :: [] :: names) = _
      rw [Text.joinWith_cons_of_ne_nil (by simp), Text.joinWith_cons_of_ne_nil filled]
      rfl
  by_cases none : plain = []
  · rw [if_pos none, none, List.append_nil, List.append_nil, front]
  · have some : plain.map String.toList ≠ [] := by simpa using none
    rw [if_neg none, List.map_append, Text.joinWith_append (by simp [isFolder.filled]) some, front]

theorem splitPattern_below (isFolder : folder.IsFolder) (plain : isPattern folder.toString = false)
    (part : String) : splitPattern (below folder.toString part) =
      (folder.toString ++ plainTail part, patternTail part) := by
  have spelled : below folder.toString part = folder.toString ++ ("/" ++ part) := by
    have below_ := below_append isFolder (.inl rfl) part
    rwa [String.append_empty, extend_empty] at below_
  have cut : pieces (below folder.toString part) =
      List.replicate folder.anchor.text.length "" ++ folder.parts ++ pieces part := by
    rw [spelled, isFolder.pieces_append (.inr ⟨part, rfl⟩), pieces_slash, List.tail_cons]
  have front : ∀ piece ∈ List.replicate folder.anchor.text.length "" ++ folder.parts,
      (!isPattern piece) = true := by
    intro piece member
    rcases List.mem_append.mp member with empty | name
    · rw [List.eq_of_mem_replicate empty]
      decide
    · rw [isPattern_of_mem plain name]
      rfl
  obtain ⟨c, last, different⟩ := isFolder.proper.getLast? isFolder.filled
  generalize parts : List.replicate folder.anchor.text.length "" ++ folder.parts = before at cut front
  have taken : (pieces (below folder.toString part)).takeWhile (!isPattern ·) =
      before ++ (pieces part).takeWhile (!isPattern ·) := by
    rw [cut, List.takeWhile_append_of_pos front]
  have dropped : (pieces (below folder.toString part)).drop
      (before ++ (pieces part).takeWhile (!isPattern ·)).length =
        (pieces part).drop ((pieces part).takeWhile (!isPattern ·)).length := by
    rw [cut, List.length_append, List.drop_append, List.drop_of_length_le (by omega), List.nil_append,
      Nat.add_sub_cancel_left]
  have base : (String.intercalate "/" (before ++ (pieces part).takeWhile (!isPattern ·))).toList =
      Text.joinWith '/' ((before ++ (pieces part).takeWhile (!isPattern ·)).map String.toList) := by
    rw [String.toList_intercalate]
    exact Text.intercalate_eq_joinWith '/' _
  have kept : String.ofList ((String.intercalate "/"
      (before ++ (pieces part).takeWhile (!isPattern ·))).toList.reverse.dropWhile (· = '/')).reverse =
        folder.toString ++ plainTail part := by
    rw [base, ← Text.trimEnd, ← parts, joinWith_front isFolder, Text.trimEnd_append last different]
    exact String.toList_inj.mp (by simp [plainTail])
  unfold splitPattern
  simp only [taken, dropped, kept]
  rw [if_neg fun both => isFolder.append_ne_empty _ both.1]
  rfl

/-- A folder with a bracket in its name is cut away itself. -/
example : splitPattern (below "/a[b]" "*.cs") = ("/", ["a[b]", "*.cs"]) := by decide +kernel

end Wildcard
end UsingCensus
