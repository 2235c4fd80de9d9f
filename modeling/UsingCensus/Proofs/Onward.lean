import Mathlib.Data.List.Flatten
import Mathlib.Data.List.TakeWhile
import UsingCensus.Proofs.ResolvedTargets

namespace UsingCensus

open FileTree

/-! ### Texts -/

namespace Text

theorem splitAt_append_cons (separator : Char) (first second : List Char) :
    splitAt separator (first ++ separator :: second) = splitAt separator first ++ splitAt separator second := by
  have parts : ∀ part ∈ splitAt separator first, separator ∉ part := fun part member =>
    not_mem_of_mem_splitAt member
  have whole := splitAt_joinWith_append (splitAt_ne_nil separator first) parts second
  rwa [joinWith_splitAt] at whole

theorem joinWith_sublist {separator : Char} {first second : List (List Char)} (within : first.Sublist second) :
    (joinWith separator first).Sublist (joinWith separator second) := by
  induction within with
  | slnil => exact List.Sublist.refl _
  | @cons first second part within ih =>
    by_cases none : second = []
    · subst none
      rw [List.sublist_nil.mp within]
      exact List.nil_sublist _
    · rw [joinWith_cons_of_ne_nil none]
      exact (ih.cons separator).trans (List.sublist_append_right part _)
  | @cons_cons first second part within ih =>
    by_cases none : first = []
    · subst none
      by_cases also : second = []
      · rw [also]
      · rw [joinWith_cons_of_ne_nil also]
        exact List.sublist_append_left part _
    · have some : second ≠ [] := by
        rintro rfl
        exact none (List.sublist_nil.mp within)
      rw [joinWith_cons_of_ne_nil none, joinWith_cons_of_ne_nil some]
      exact (List.Sublist.refl part).append (ih.cons_cons separator)

theorem Utf8.length_ofString_le {first second : String} (within : first.toList.Sublist second.toList) :
    (Utf8.ofString first).length ≤ (Utf8.ofString second).length :=
  (within.flatMap _).length_le

theorem splitAt_replicate_append (separator : Char) (many : Nat) (cs : List Char) :
    splitAt separator (List.replicate many separator ++ cs) = List.replicate many [] ++ splitAt separator cs := by
  induction many with
  | zero => rfl
  | succ fewer ih => rw [List.replicate_succ, List.replicate_succ, List.cons_append, splitAt, if_pos rfl, ih,
      List.cons_append]

end Text

namespace Path

theorem map_toList_parts_ofString (text : String) : (ofString text).parts.map String.toList =
    (Text.splitAt '/' text.toList).filter fun cs => isPart (String.ofList cs) := by
  unfold ofString pieces
  rw [List.filter_map, List.map_map]
  exact (List.map_congr_left fun cs _ => String.toList_ofList).trans (List.map_id _)

theorem takeWhile_slash (cs : List Char) :
    cs.takeWhile (· = '/') = List.replicate (cs.takeWhile (· = '/')).length '/' :=
  List.eq_replicate_iff.mpr ⟨rfl, fun c member => by simpa using List.mem_takeWhile_imp member⟩

theorem anchorOf_sublist (text : String) :
    (anchorOf text).text.toList.Sublist (text.toList.takeWhile (· = '/')) := by
  rw [takeWhile_slash]
  unfold anchorOf
  split
  · exact List.nil_sublist _
  · rename_i two
    rw [two]
    exact List.Sublist.refl _
  · rename_i some _
    exact List.singleton_sublist.mpr (List.mem_replicate.mpr ⟨some, rfl⟩)

theorem map_toList_parts_dropWhile (text : String) : (ofString text).parts.map String.toList =
    (Text.splitAt '/' (text.toList.dropWhile (· = '/'))).filter fun cs => isPart (String.ofList cs) := by
  have whole := List.takeWhile_append_dropWhile (p := (· = '/')) (l := text.toList)
  have nothing : (List.replicate (text.toList.takeWhile (· = '/')).length []).filter
      (fun cs => isPart (String.ofList cs)) = [] := by
    refine List.filter_eq_nil_iff.mpr fun cs member => ?_
    rw [List.eq_of_mem_replicate member]
    decide
  rw [map_toList_parts_ofString, ← whole, takeWhile_slash, Text.splitAt_replicate_append, List.filter_append, nothing,
    List.nil_append, ← takeWhile_slash, whole]

/-- The path of a text is spelled with characters of the text, in their order. -/
theorem toString_ofString_sublist {text : String} (filled : text ≠ "") :
    (ofString text).toString.toList.Sublist text.toList := by
  have anchored := anchorOf_sublist text
  have whole := List.takeWhile_append_dropWhile (p := (· = '/')) (l := text.toList)
  have cut := map_toList_parts_dropWhile text
  by_cases named : (ofString text).parts = []
  · unfold Path.toString
    by_cases here : (ofString text).anchor = .here
    · rw [if_pos ⟨here, named⟩]
      -- the text starts with a piece that names nothing, and is not empty
      have some : text.toList ≠ [] := fun empty => filled (String.toList_eq_nil_iff.mp empty)
      obtain ⟨c, rest, spelled⟩ := List.exists_cons_of_ne_nil some
      have other : c ≠ '/' := by
        rintro rfl
        simp only [ofString, anchorOf, spelled, List.takeWhile_cons, decide_true, if_true, List.length_cons] at here
        split at here <;> simp_all
      obtain ⟨part, parts, pieces⟩ : ∃ part parts, Text.splitAt '/' (c :: rest) = (c :: part) :: parts := by
        rw [Text.splitAt, if_neg other]
        split
        · exact ⟨[], [], rfl⟩
        · exact ⟨_, _, rfl⟩
      have kept : (c :: rest).dropWhile (· = '/') = c :: rest := List.dropWhile_cons_of_neg (by simpa using other)
      have nothing : isPart (String.ofList (c :: part)) = false := by
        rw [named, spelled, kept, pieces] at cut
        have gone := List.filter_eq_nil_iff.mp cut.symm (c :: part) List.mem_cons_self
        simpa using gone
      have dot : c = '.' := by
        by_contra different
        refine absurd (isPart_iff.mpr ⟨fun empty => ?_, fun dot => ?_⟩) (Bool.not_eq_true _ ▸ nothing)
        · simpa using congrArg String.toList empty
        · exact different (List.cons.inj (by simpa using congrArg String.toList dot)).1
      rw [spelled, dot]
      exact List.singleton_sublist.mpr List.mem_cons_self
    · rw [if_neg fun both => here both.1, named]
      have bare : (String.intercalate "/" ([] : List String)) = "" := rfl
      rw [bare, String.append_empty]
      exact anchored.trans (List.takeWhile_sublist _)
  · rw [toList_toString _ named, cut]
    conv => rhs; rw [← whole]
    refine anchored.append ?_
    conv => rhs; rw [← Text.joinWith_splitAt '/' (text.toList.dropWhile (· = '/'))]
    exact Text.joinWith_sublist List.filter_sublist

theorem slashes_text (anchor : Anchor) : ∃ many, anchor.text.toList = List.replicate many '/' := by
  cases anchor with
  | here => exact ⟨0, rfl⟩
  | root => exact ⟨1, rfl⟩
  | doubleRoot => exact ⟨2, rfl⟩

theorem Proper.parts_toString {path : Path} (proper : path.Proper) (named : path.parts ≠ []) :
    (ofString path.toString).parts = path.parts := by
  obtain ⟨many, slashes⟩ := slashes_text path.anchor
  have sound : ∀ cs ∈ path.parts.map String.toList, isPart (String.ofList cs) = true ∧ '/' ∉ cs := by
    intro cs member
    obtain ⟨part, own, rfl⟩ := List.mem_map.mp member
    rw [String.ofList_toList]
    exact proper part own
  have nothing : (List.replicate many []).filter (fun cs => isPart (String.ofList cs)) = [] :=
    List.filter_eq_nil_iff.mpr fun cs member => by
      rw [List.eq_of_mem_replicate member]
      decide
  refine List.map_injective_iff.mpr (fun _ _ => String.toList_inj.mp) ?_
  rw [map_toList_parts_ofString, toList_toString _ named, slashes, Text.splitAt_replicate_append, List.filter_append,
    nothing, List.nil_append, Text.splitAt_joinWith (by simpa using named) fun cs member => (sound cs member).2,
    List.filter_eq_self.mpr fun cs member => (sound cs member).1]

theorem Proper.anchorOf_toString {path : Path} (proper : path.Proper) (named : path.parts ≠ []) :
    anchorOf path.toString = path.anchor := by
  obtain ⟨c, more, joined, different⟩ := proper.exists_joinWith named
  unfold anchorOf
  rw [toList_toString _ named, joined]
  cases path.anchor <;> simp [Anchor.text, different]

theorem ofString_toString {path : Path} (proper : path.Proper) : ofString path.toString = path := by
  by_cases named : path.parts = []
  · obtain ⟨anchor, parts⟩ := path
    cases named
    cases anchor <;> decide
  · have anchored := proper.anchorOf_toString named
    have parts := proper.parts_toString named
    unfold ofString at parts ⊢
    rw [anchored]
    exact congrArg _ parts

end Path

/-! ### Following -/

namespace FileTree

variable {tree : FileTree} {links : Nat} {here there : Location} {first rest : List String}

/-- The first step of steps some of which are filtered, if it does not stay in place. -/
theorem append_filter_isPart_eq_cons {name : String} {more : List String} (whole : first ++ rest = name :: more)
    (filled : ∀ name ∈ rest, name ≠ "") (moves : name ≠ ".") :
    ∃ front back, front ++ back = more ∧
      first ++ rest.filter Path.isPart = name :: (front ++ back.filter Path.isPart) ∧
      ∀ name ∈ back, name ≠ "" := by
  cases first with
  | nil =>
    subst whole
    obtain ⟨some, later⟩ := List.forall_mem_cons.mp filled
    exact ⟨[], more, rfl, List.filter_cons_of_pos (Path.isPart_iff.mpr ⟨some, moves⟩), later⟩
  | cons name' front =>
    obtain ⟨rfl, rfl⟩ := List.cons.inj whole
    exact ⟨front, rest, rfl, rfl, filled⟩

theorem follow_filter_isPart (leads : tree.follow true links here (first ++ rest) = .ok there)
    (filled : ∀ name ∈ rest, name ≠ "") :
    tree.follow true links here (first ++ rest.filter Path.isPart) = .ok there := by
  generalize whole : first ++ rest = names at leads
  fun_induction follow tree true links here names generalizing first rest with
  | case1 =>
    obtain ⟨rfl, rfl⟩ := List.append_eq_nil_iff.mp whole
    rw [List.filter_nil, List.append_nil, follow]
    exact leads
  | case2 | case3 | case4 | case5 | case9 => cases leads
  | case6 links here more stands _ ih =>
    cases first with
    | nil =>
      have behind : rest = "." :: more := whole
      subst behind
      rw [List.filter_cons_of_neg (by decide)]
      exact ih (List.forall_mem_cons.mp filled).2 rfl leads
    | cons name front =>
      obtain ⟨rfl, rfl⟩ := List.cons.inj whole
      rw [List.cons_append, follow_special stands (.inl rfl), if_pos rfl]
      exact ih filled rfl leads
  | case7 links here more stands _ dot ih =>
    obtain ⟨front, back, rfl, same, later⟩ := append_filter_isPart_eq_cons whole filled dot
    rw [same, follow_special stands (.inr rfl), if_neg dot]
    exact ih later rfl leads
  | case8 links here name more _ _ _ _ next target =>
    rename_i last
    cases last.2
  | case10 here name more stands short dot dots next target found =>
    rename_i fewer ih
    obtain ⟨front, back, rfl, same, later⟩ := append_filter_isPart_eq_cons whole filled dot
    rw [same, follow_name stands short ⟨dot, dots⟩, found]
    have passed : tree.follow true fewer (startOf target here)
        (steps target ++ front ++ back.filter Path.isPart) = .ok there :=
      ih later (List.append_assoc _ _ _) leads
    rw [List.append_assoc] at passed
    simpa [followLink] using passed
  | case11 links here name more stands short dot dots next =>
    rename_i plain ih
    obtain ⟨front, back, rfl, same, later⟩ := append_filter_isPart_eq_cons whole filled dot
    rw [same, follow_name stands short ⟨dot, dots⟩]
    split
    · rename_i target found
      exact absurd found (plain target)
    · exact ih later rfl leads

theorem exists_follow_append (leads : tree.follow true links here first = .ok there) :
    ∃ left, ∀ through rest, rest ≠ [] →
      tree.follow through links here (first ++ rest) = tree.follow through left there rest := by
  fun_induction follow tree true links here first with
  | case1 links here =>
    cases leads
    exact ⟨links, fun through rest _ => rfl⟩
  | case2 | case3 | case4 | case5 | case9 => cases leads
  | case6 links here more stands _ ih =>
    obtain ⟨left, onward⟩ := ih leads
    refine ⟨left, fun through rest some => ?_⟩
    rw [List.cons_append, follow_special stands (.inl rfl), if_pos rfl, onward through rest some]
  | case7 links here more stands _ dot ih =>
    obtain ⟨left, onward⟩ := ih leads
    refine ⟨left, fun through rest some => ?_⟩
    rw [List.cons_append, follow_special stands (.inr rfl), if_neg dot, onward through rest some]
  | case8 links here name more _ _ _ _ next target _ last => cases last.2
  | case10 here name more stands short dot dots next target found _ fewer ih =>
    obtain ⟨left, onward⟩ := ih leads
    refine ⟨left, fun through rest some => ?_⟩
    have further : more ++ rest ≠ [] := fun none => some (List.append_eq_nil_iff.mp none).2
    rw [List.cons_append, follow_name stands short ⟨dot, dots⟩, found]
    dsimp only
    rw [if_neg fun both => further both.1, followLink, ← List.append_assoc, onward through rest some]
  | case11 links here name more stands short dot dots next plain ih =>
    obtain ⟨left, onward⟩ := ih leads
    refine ⟨left, fun through rest some => ?_⟩
    rw [List.cons_append, follow_name stands short ⟨dot, dots⟩]
    split
    · rename_i target found
      exact absurd found (plain target)
    · exact onward through rest some

/-- A link to its own directory can be walked through again and again, as long as there are links left. -/
theorem follow_replicate {name : String} (stands : tree.entry? here = some .directory) (legal : Legal name)
    (loop : tree.entry? (here ++ [name]) = some (.link ".")) {through : Bool} (goes : rest ≠ [] ∨ through = true)
    (many : Nat) : tree.follow through (links + many) here (List.replicate many name ++ rest) =
      tree.follow through links here rest := by
  induction many with
  | zero => rfl
  | succ fewer ih =>
    have named := (Path.isPart_iff.mp legal.1).2
    have some : ¬ (List.replicate fewer name ++ rest = [] ∧ through = false) := by
      rintro ⟨none, last⟩
      rcases goes with more | always
      · exact more (List.append_eq_nil_iff.mp none).2
      · rw [always] at last
        cases last
    have dot : steps "." = ["."] := rfl
    have relative : startOf "." here = here := rfl
    rw [List.replicate_succ, List.cons_append,
      follow_name stands (Nat.not_lt.mpr legal.2.2.2) ⟨named, legal.2.2.1⟩, loop]
    dsimp only
    rw [if_neg some, ← Nat.add_assoc, followLink, relative, dot, List.singleton_append,
      follow_special stands (.inl rfl), if_pos rfl, ih]

end FileTree

/-! ### One more name -/

theorem FileTree.Legal.isStep {name : String} (legal : Legal name) : IsStep name :=
  ⟨(Path.isPart_iff.mp legal.1).1, legal.2.1⟩

namespace Wildcard

variable {text name : String}

theorem below_of_endsIn (filled : text ≠ "") (named : name ≠ "") (slash : Text.endsIn text "/" = true) :
    below text name = text ++ name := by
  unfold below
  rw [if_neg filled, if_neg (by simp [named]), if_pos slash]

theorem below_of_not_endsIn (filled : text ≠ "") (noSlash : Text.endsIn text "/" = false) :
    below text name = text ++ "/" ++ name := by
  unfold below
  rw [if_neg filled, if_neg (by simp [noSlash]), if_neg (by simp [noSlash])]

theorem endsIn_append (front : String) (step : IsStep name) : Text.endsIn (front ++ name) "/" = false := by
  have letters : name.toList ≠ [] := fun empty => step.1 (String.toList_eq_nil_iff.mp empty)
  unfold Text.endsIn
  rw [← Bool.not_eq_true, List.isSuffixOf_iff_suffix, String.toList_append]
  intro suffix
  have last : ['/'] <:+ name.toList :=
    List.suffix_of_suffix_length_le suffix (List.suffix_append _ _) (List.length_pos_iff.mpr letters)
  exact step.2 (last.mem (List.mem_singleton_self _))

/-- A text with one more name behind it: it ends without a slash, starts as it did, and has one more step. -/
theorem steps_below (filled : text ≠ "") (noSlash : Text.endsIn text "/" = false) (step : IsStep name) :
    steps (below text name) = steps text ++ [name] := by
  have named : (List.filter (· ≠ "") [name]) = [name] := List.filter_cons_of_pos (by simpa using step.1)
  have pieces : Path.pieces (text ++ "/" ++ name) = Path.pieces text ++ [name] := by
    unfold Path.pieces
    rw [String.append_assoc, String.toList_append, String.toList_append]
    change (Text.splitAt '/' (text.toList ++ '/' :: name.toList)).map String.ofList = _
    rw [Text.splitAt_append_cons, Text.splitAt_of_not_mem step.2, List.map_append, List.map_singleton,
      String.ofList_toList]
  unfold steps
  rw [below_of_not_endsIn filled noSlash, endsIn_append _ step, noSlash, pieces, List.filter_append, named]
  rfl

theorem startOf_append (filled : text ≠ "") (behind : String) (directory : Location) :
    startOf (text ++ behind) directory = startOf text directory := by
  have letters : text.toList ≠ [] := fun empty => filled (String.toList_eq_nil_iff.mp empty)
  obtain ⟨c, rest, spelled⟩ := List.exists_cons_of_ne_nil letters
  unfold startOf Text.startsIn
  rw [String.toList_append, spelled]
  rfl

theorem startOf_below (filled : text ≠ "") (named : name ≠ "") (directory : Location) :
    startOf (below text name) directory = startOf text directory := by
  cases slash : Text.endsIn text "/" with
  | true => rw [below_of_endsIn filled named slash, startOf_append filled]
  | false => rw [below_of_not_endsIn filled slash, String.append_assoc, startOf_append filled]

theorem below_ne_empty (filled : text ≠ "") : below text name ≠ "" := by
  intro empty
  have none := congrArg String.toList empty
  unfold below at none
  rw [if_neg filled] at none
  split at none
  · exact filled (String.toList_eq_nil_iff.mp none)
  · split at none
    · rw [String.toList_append] at none
      exact filled (String.toList_eq_nil_iff.mp (List.append_eq_nil_iff.mp none).1)
    · rw [String.append_assoc, String.toList_append] at none
      exact filled (String.toList_eq_nil_iff.mp (List.append_eq_nil_iff.mp none).1)

theorem mem_below {c : Char} (member : c ∈ (below text name).toList) :
    c ∈ text.toList ∨ c = '/' ∨ c ∈ name.toList := by
  unfold below at member
  split at member
  · exact .inr (.inr member)
  · split at member
    · exact .inl member
    · split at member
      · rw [String.toList_append] at member
        exact (List.mem_append.mp member).imp_right .inr
      · rw [String.toList_append, String.toList_append] at member
        rcases List.mem_append.mp member with front | own
        · exact (List.mem_append.mp front).imp_right fun slash => .inl (List.mem_singleton.mp slash)
        · exact .inr (.inr own)

theorem endsIn_below (filled : text ≠ "") (step : IsStep name) : Text.endsIn (below text name) "/" = false := by
  cases slash : Text.endsIn text "/" with
  | true => rw [below_of_endsIn filled step.1 slash, endsIn_append _ step]
  | false => rw [below_of_not_endsIn filled slash, endsIn_append _ step]

theorem length_below (filled : text ≠ "") (noSlash : Text.endsIn text "/" = false) (name : String) :
    (Text.Utf8.ofString (below text name)).length =
      (Text.Utf8.ofString text).length + (Text.Utf8.ofString name).length + 1 := by
  have slash : (Text.Utf8.ofString "/").length = 1 := by decide
  rw [below_of_not_endsIn filled noSlash, Text.Utf8.length_ofString_append, Text.Utf8.length_ofString_append, slash]
  omega

theorem length_le_length_below (filled : text ≠ "") (name : String) :
    (Text.Utf8.ofString text).length ≤ (Text.Utf8.ofString (below text name)).length := by
  unfold below
  rw [if_neg filled]
  split
  · exact Nat.le_refl _
  · split
    · rw [Text.Utf8.length_ofString_append]
      exact Nat.le_add_right _ _
    · rw [Text.Utf8.length_ofString_append, Text.Utf8.length_ofString_append, Nat.add_assoc]
      exact Nat.le_add_right _ _

theorem length_ofString_pos (named : name ≠ "") : 0 < (Text.Utf8.ofString name).length :=
  Nat.lt_of_lt_of_le (List.length_pos_iff.mpr (mt String.toList_eq_nil_iff.mp named))
    (Text.length_le_length_encode name.toList)

theorem length_lt_length_below (filled : text ≠ "") (named : name ≠ "") :
    (Text.Utf8.ofString text).length < (Text.Utf8.ofString (below text name)).length := by
  have some := length_ofString_pos named
  cases slash : Text.endsIn text "/" with
  | true =>
    rw [below_of_endsIn filled named slash, Text.Utf8.length_ofString_append]
    omega
  | false =>
    rw [length_below filled slash]
    omega

end Wildcard

namespace Surroundings

open Wildcard

variable {around : Surroundings} {text name : String} {base : Location}

theorem isDirectory_iff : around.isDirectory text = true ↔
    ∃ base, around.locate? true text = some base ∧ around.tree.entry? base = some .directory := by
  rw [isDirectory_eq, decide_eq_true_iff, kind?_eq]
  constructor
  · intro leads
    exact Option.bind_eq_some_iff.mp (entry_eq_directory leads)
  · rintro ⟨base, found, stands⟩
    rw [found, Option.bind_some, stands]
    rfl

theorem short_of_isDirectory (leads : around.isDirectory text = true) :
    (Text.Utf8.ofString text).length ≤ pathLimit := by
  rw [isDirectory_eq, decide_eq_true_iff, kind?_eq_some_iff] at leads
  obtain ⟨_, location, _, found, _⟩ := leads
  exact (seek_eq_ok_iff.mp found).2.1

/-- The text leads to the directory, unless it is too long, and so does whatever of it is walked before one more
name. -/
structure Reaches (around : Surroundings) (text : String) (base : Location) : Prop where
  filled : text ≠ ""
  readable : '\x00' ∉ text.toList
  stands : around.tree.entry? base = some .directory
  sought : around.seek true text =
    if (Text.Utf8.ofString text).length > pathLimit then .error .nameTooLong else .ok base
  onward : ∃ left front, (∀ through rest, rest ≠ [] →
      around.tree.follow through linkLimit (startOf text around.directory) (front ++ rest) =
        around.tree.follow through left base rest) ∧
    ∀ name, IsStep name → steps (below text name) = front ++ [name]

/-- A name that is no longer than a name may be, and that holds no NUL. -/
def Nameable (name : String) : Prop := Legal name ∧ '\x00' ∉ name.toList

namespace Reaches

variable (reaches : around.Reaches text base)
include reaches

theorem exists_seek_below : ∃ left, ∀ through name, Legal name → around.seek through (below text name) =
    if (Text.Utf8.ofString (below text name)).length > pathLimit then .error .nameTooLong
    else around.tree.follow through left base [name] := by
  obtain ⟨left, front, onward, walked⟩ := reaches.onward
  refine ⟨left, fun through name legal => ?_⟩
  unfold seek
  rw [if_neg (below_ne_empty reaches.filled), walked name legal.isStep,
    startOf_below reaches.filled legal.isStep.1, onward through [name] (by simp)]

theorem readable_below (nameable : Nameable name) : '\x00' ∉ (below text name).toList := by
  intro null
  rcases mem_below null with front | slash | own
  · exact reaches.readable front
  · exact absurd slash (by decide)
  · exact nameable.2 own

theorem child (nameable : Nameable name) (stands : around.tree.entry? (base ++ [name]) = some .directory) :
    around.Reaches (below text name) (base ++ [name]) := by
  obtain ⟨left, front, onward, walked⟩ := reaches.onward
  have legal := nameable.1
  have step := legal.isStep
  have next (through : Bool) (rest : List String) :
      around.tree.follow through left base (name :: rest) = around.tree.follow through left (base ++ [name]) rest := by
    have named := (Path.isPart_iff.mp legal.1).2
    rw [follow_name reaches.stands (Nat.not_lt.mpr legal.2.2.2) ⟨named, legal.2.2.1⟩, stands]
  have start : startOf (below text name) around.directory = startOf text around.directory :=
    startOf_below reaches.filled step.1 _
  refine ⟨below_ne_empty reaches.filled, reaches.readable_below nameable, stands, ?_, left, front ++ [name],
    fun through rest some => ?_, fun other also => ?_⟩
  · unfold seek
    rw [if_neg (below_ne_empty reaches.filled), start, walked name step, onward true [name] (by simp), next, follow]
  · rw [start, List.append_assoc, onward through _ (by simp), List.singleton_append, next]
  · rw [steps_below (below_ne_empty reaches.filled) (endsIn_below reaches.filled step) also, walked name step]

theorem locate?_eq : around.locate? true text =
    if (Text.Utf8.ofString text).length > pathLimit then none else some base := by
  unfold locate?
  rw [if_neg reaches.readable, reaches.sought]
  split
  · rfl
  · simp [Except.toOption, Option.filter_some, reaches.stands]

theorem mem_namesOf_iff : name ∈ around.namesOf text ↔
    (Text.Utf8.ofString text).length ≤ pathLimit ∧ around.tree.entry? (base ++ [name]) ≠ none := by
  rw [namesOf_eq, reaches.locate?_eq]
  split
  · rename_i long
    simp [Nat.not_le.mpr long]
  · rename_i short
    rw [Option.elim_some, if_pos reaches.stands, mem_children_iff]
    simp [Nat.le_of_not_lt short]

theorem holdsDirectory_eq (short : (Text.Utf8.ofString text).length ≤ pathLimit) (name : String) :
    around.holdsDirectory text name = decide (around.tree.entry? (base ++ [name]) = some .directory) := by
  rw [Surroundings.holdsDirectory_eq, reaches.locate?_eq, if_neg (Nat.not_lt.mpr short), Option.any_some,
    reaches.stands]
  simp

theorem isLink_below_iff (nameable : Nameable name) : around.isLink (below text name) = true ↔
    (Text.Utf8.ofString (below text name)).length ≤ pathLimit ∧
      ∃ target, around.tree.entry? (base ++ [name]) = some (.link target) := by
  obtain ⟨left, sought⟩ := reaches.exists_seek_below
  have named := (Path.isPart_iff.mp nameable.1.1).2
  have stays : around.tree.follow false left base [name] = .ok (base ++ [name]) := by
    rw [follow_name reaches.stands (Nat.not_lt.mpr nameable.1.2.2.2) ⟨named, nameable.1.2.2.1⟩]
    split
    · rw [if_pos ⟨rfl, rfl⟩]
    · rw [follow]
  rw [isLink_eq, decide_eq_true_iff, kind?_eq_some_iff, sought false name nameable.1, stays]
  constructor
  · rintro ⟨_, location, entry, found, stands, kind⟩
    split at found
    · cases found
    · rename_i short
      cases found
      cases entry with
      | link target => exact ⟨Nat.le_of_not_lt short, target, stands⟩
      | file bytes => cases kind
      | directory => cases kind
  · rintro ⟨short, target, stands⟩
    rw [if_neg (Nat.not_lt.mpr short)]
    exact ⟨reaches.readable_below nameable, _, _, rfl, stands, rfl⟩

theorem directory_of_isDirectory (nameable : Nameable name) (leads : around.isDirectory (below text name) = true)
    (plain : ∀ target, around.tree.entry? (base ++ [name]) ≠ some (.link target)) :
    around.tree.entry? (base ++ [name]) = some .directory := by
  obtain ⟨left, sought⟩ := reaches.exists_seek_below
  have named := (Path.isPart_iff.mp nameable.1.1).2
  have stays : around.tree.follow true left base [name] = .ok (base ++ [name]) := by
    rw [follow_name reaches.stands (Nat.not_lt.mpr nameable.1.2.2.2) ⟨named, nameable.1.2.2.1⟩]
    split
    · rename_i target linked
      exact absurd linked (plain target)
    · rw [follow]
  rw [isDirectory_eq, decide_eq_true_iff, kind?_eq_some_iff, sought true name nameable.1, stays] at leads
  obtain ⟨_, location, entry, found, stands, kind⟩ := leads
  split at found
  · cases found
  · cases found
    cases entry with
    | directory => exact stands
    | file bytes => cases kind
    | link target => cases kind

theorem entered_iff (nameable : Nameable name) (short : (Text.Utf8.ofString text).length ≤ pathLimit) :
    ((around.isDirectory (below text name) || around.holdsDirectory text name) = true ∧
      around.isLink (below text name) = false) ↔ around.tree.entry? (base ++ [name]) = some .directory := by
  rw [reaches.holdsDirectory_eq short, Bool.or_eq_true, decide_eq_true_iff]
  constructor
  · rintro ⟨leads | stands, noLink⟩
    · refine reaches.directory_of_isDirectory nameable leads fun target linked => ?_
      rw [(reaches.isLink_below_iff nameable).mpr ⟨short_of_isDirectory leads, target, linked⟩] at noLink
      cases noLink
    · exact stands
  · intro stands
    refine ⟨.inr stands, Bool.eq_false_iff.mpr fun link => ?_⟩
    obtain ⟨_, target, linked⟩ := (reaches.isLink_below_iff nameable).mp link
    rw [stands] at linked
    cases linked

end Reaches

/-! ### Paths of texts -/

theorem steps_below_bare {path : Path} (bare : path.parts = []) (slash : Text.endsIn path.toString "/" = true)
    (step : IsStep name) : steps (below path.toString name) = [name] := by
  have filled : path.toString ≠ "" := by
    intro empty
    rw [empty] at slash
    exact absurd slash (by decide)
  have kept : List.filter (· ≠ "") [name] = [name] := List.filter_cons_of_pos (by simpa using step.1)
  have pieces (many : Nat) : (Text.splitAt '/' (List.replicate many '/' ++ name.toList)).map String.ofList =
      List.replicate many "" ++ [name] := by
    rw [Text.splitAt_replicate_append, Text.splitAt_of_not_mem step.2, List.map_append, List.map_replicate,
      List.map_singleton, String.ofList_toList]
  obtain ⟨anchor, parts⟩ := path
  cases bare
  rw [below_of_endsIn filled step.1 slash]
  unfold steps Path.pieces
  rw [endsIn_append _ step, String.toList_append]
  cases anchor with
  | here => exact absurd slash (by decide)
  | root =>
    have one : (Path.mk .root []).toString.toList = List.replicate 1 '/' := by decide
    rw [one, pieces]
    exact kept
  | doubleRoot =>
    have two : (Path.mk .doubleRoot []).toString.toList = List.replicate 2 '/' := by decide
    rw [two, pieces]
    exact kept

theorem follow_parts_of_locate? (found : around.locate? true text = some base) :
    around.tree.follow true linkLimit (around.origin (Path.ofString text)) (Path.ofString text).parts = .ok base := by
  obtain ⟨_, _, leads⟩ := seek_eq_ok_iff.mp (seek_of_locate? found)
  rw [startOf_eq_origin, ← List.nil_append (steps text)] at leads
  rw [← Path.filter_isPart_steps]
  exact follow_filter_isPart leads fun name member => (isStep_of_mem_steps member).1

/-- To a directory a path leads as its text does: spelled anew, the text gets no longer. -/
theorem seek_toString_ofString (found : around.locate? true text = some base)
    (stands : around.tree.entry? base = some .directory) :
    around.seek true (Path.ofString text).toString = .ok base := by
  have proper := Path.proper_ofString text
  have parts := follow_parts_of_locate? found
  obtain ⟨some, short, _⟩ := seek_eq_ok_iff.mp (seek_of_locate? found)
  have fits := Text.Utf8.length_ofString_le (Path.toString_ofString_sublist some)
  refine (seek_toString_eq_ok_iff proper).mpr ⟨Nat.le_trans fits short, ?_⟩
  by_cases bare : (Path.ofString text).parts = []
  · rw [bare, follow] at parts
    rw [steps_of_bare bare, Except.ok.inj parts, follow_special stands (.inl rfl), if_pos rfl, follow]
  · rwa [proper.steps bare]

theorem reaches_ofString (found : around.locate? true text = some base)
    (stands : around.tree.entry? base = some .directory) : around.Reaches (Path.ofString text).toString base := by
  have proper := Path.proper_ofString text
  obtain ⟨filled, short, leads⟩ := seek_eq_ok_iff.mp (seek_toString_ofString found stands)
  have readable : '\x00' ∉ (Path.ofString text).toString.toList := fun null =>
    readable_of_locate? found (Path.mem_of_mem_toString_ofString (by decide) null)
  refine ⟨filled, readable, stands, ?_, ?_⟩
  · rw [seek_toString_ofString found stands, if_neg (Nat.not_lt.mpr short)]
  · cases slash : Text.endsIn (Path.ofString text).toString "/" with
    | true =>
      have bare : (Path.ofString text).parts = [] := by
        by_contra named
        rw [proper.endsIn named] at slash
        cases slash
      have parts := follow_parts_of_locate? found
      rw [bare, follow] at parts
      refine ⟨linkLimit, [], fun through rest _ => ?_, fun name => steps_below_bare bare slash⟩
      rw [List.nil_append, around.startOf_toString proper, Except.ok.inj parts]
    | false =>
      obtain ⟨left, onward⟩ := exists_follow_append leads
      exact ⟨left, _, onward, fun name step => steps_below filled slash step⟩

end Surroundings
end UsingCensus
