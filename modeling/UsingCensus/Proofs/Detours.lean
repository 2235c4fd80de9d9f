import Mathlib.Data.List.Infix
import UsingCensus.Proofs.Descents

namespace UsingCensus

open FileTree Wildcard Target

namespace Surroundings

variable {around : Surroundings} {name : String}

/-! ### Without limits -/

/-- A file below a directory as it stands, however long its path is and however many links lead to it. -/
structure Bare (around : Surroundings) (enter : Nat → String → Bool) (base : Location) (folders : List String)
    (name : String) : Prop where
  entered : Mirrors.Entered enter 0 folders
  standing : ∀ place, place <+: folders → around.tree.entry? (base ++ place) = some .directory
  present : around.tree.entry? (base ++ folders ++ [name]) ≠ none
  plain : around.tree.entry? (base ++ folders ++ [name]) ≠ some .directory
  noLink : ∀ target links there, around.tree.entry? (base ++ folders ++ [name]) = some (.link target) →
    around.tree.Walk (startOf target (base ++ folders)) (steps target) links there →
      around.tree.entry? there ≠ some .directory

/-- The path of a folder with one name behind it, many times over, and then others. -/
def wound (folder : Path) (many : Nat) (name : String) (rest : List String) : Path :=
  ⟨folder.anchor, folder.parts ++ (List.replicate many name ++ rest)⟩

theorem readable_wound {folder : Path} (own : ∀ part ∈ folder.parts, '\x00' ∉ part.toList)
    (also : '\x00' ∉ name.toList) (many : Nat) : '\x00' ∉ (wound folder many name []).toString.toList := by
  intro null
  obtain ⟨part, member, inside⟩ := (Path.mem_toString_iff (by decide)).mp null
  rcases List.mem_append.mp member with front | behind
  · exact own part front inside
  · rw [List.append_nil] at behind
    exact also (List.eq_of_mem_replicate behind ▸ inside)

section Wound

variable {folder : Path} {many : Nat} {rest : List String} (isFolder : folder.IsFolder) (legal : Legal name)
include isFolder legal

theorem isFolder_wound (others : ∀ other ∈ rest, Legal other) : (wound folder many name rest).IsFolder := by
  refine isFolder_append isFolder (List.forall_mem_append.mpr ⟨fun other member => ?_, others⟩)
  rwa [List.eq_of_mem_replicate member]

theorem below_wound (many : Nat) (other : String) :
    below (wound folder many name []).toString other = (wound folder many name [other]).toString := by
  have wound_ : (wound folder many name []).IsFolder := isFolder_wound isFolder legal (by simp)
  have same := below_behind wound_ (List.mem_cons_self : "" ∈ ["", "/"]) other
  rw [String.append_empty, toString_child wound_] at same
  rw [same]
  simp [wound, Path.child]

theorem length_wound (many : Nat) : (Text.Utf8.ofString (wound folder many name []).toString).length =
    (Text.Utf8.ofString folder.toString).length + many * ((Text.Utf8.ofString name).length + 1) := by
  induction many with
  | zero => simp [wound]
  | succ fewer ih =>
    have before : (wound folder fewer name []).IsFolder := isFolder_wound isFolder legal (by simp)
    have further : wound folder (fewer + 1) name [] = (wound folder fewer name []).child name := by
      simp [wound, Path.child, List.replicate_succ']
    have slash : (Text.Utf8.ofString "/").length = 1 := by decide
    rw [further, ← toString_child before, Text.Utf8.length_ofString_append, Text.Utf8.length_ofString_append, ih, slash,
      Nat.succ_mul]
    omega

/-- Through a link to its own directory a path leads on from there, as long as there are links left. -/
theorem seek_wound (standing : ∀ place, place <+: folder.parts → around.tree.entry? place = some .directory)
    (loop : around.tree.entry? (folder.parts ++ [name]) = some (.link ".")) (few : many ≤ linkLimit)
    (others : ∀ other ∈ rest, Legal other) {through : Bool} (goes : rest ≠ [] ∨ through = true) :
    around.seek through (wound folder many name rest).toString =
      if (Text.Utf8.ofString (wound folder many name rest).toString).length > pathLimit then .error .nameTooLong
      else around.tree.follow through (linkLimit - many) folder.parts rest := by
  have wound_ : (wound folder many name rest).IsFolder := isFolder_wound isFolder legal others
  have start : startOf (wound folder many name rest).toString around.directory = [] := by
    rw [around.startOf_toString wound_.proper]
    exact if_pos wound_.absolute
  have down : around.tree.follow through linkLimit [] (folder.parts ++ (List.replicate many name ++ rest)) =
      around.tree.follow through linkLimit ([] ++ folder.parts) (List.replicate many name ++ rest) :=
    follow_down isFolder.legal standing
  have passed : around.tree.follow through (linkLimit - many + many) folder.parts (List.replicate many name ++ rest) =
      around.tree.follow through (linkLimit - many) folder.parts rest :=
    follow_replicate (standing _ List.prefix_rfl) legal loop goes many
  rw [Nat.sub_add_cancel few] at passed
  unfold seek
  rw [if_neg (Surroundings.toString_ne_empty wound_.proper), start, wound_.proper.steps wound_.filled]
  change (if _ then _ else
    around.tree.follow through linkLimit [] (folder.parts ++ (List.replicate many name ++ rest))) = _
  rw [down, List.nil_append, passed]

theorem locate?_wound (standing : ∀ place, place <+: folder.parts → around.tree.entry? place = some .directory)
    (loop : around.tree.entry? (folder.parts ++ [name]) = some (.link ".")) (few : many ≤ linkLimit)
    (readable : '\x00' ∉ (wound folder many name []).toString.toList)
    (short : (Text.Utf8.ofString (wound folder many name []).toString).length ≤ pathLimit) :
    around.locate? true (wound folder many name []).toString = some folder.parts := by
  unfold locate?
  rw [if_neg readable, seek_wound isFolder legal standing loop few (by simp) (.inr rfl), if_neg (Nat.not_lt.mpr short),
    follow]
  simp [Except.toOption, Option.filter_some, standing _ List.prefix_rfl]

theorem not_isDescriptor_wound (some : 0 < many) (noDot : '.' ∉ name.toList) :
    isDescriptor (wound folder many name []).toString = false := by
  rw [← Bool.not_eq_true, isDescriptor_iff]
  rintro ⟨ending, member, has⟩
  have last : (wound folder many name []).name = name := by
    obtain ⟨fewer, rfl⟩ := Nat.exists_eq_succ_of_ne_zero (Nat.pos_iff_ne_zero.mp some)
    simp [wound, Path.name, List.replicate_succ']
  have own := hasEnding_name_ofString member has
  rw [Path.ofString_toString (isFolder_wound isFolder legal (by simp)).proper, last] at own
  obtain ⟨front, rest, spelled, _⟩ := exists_of_hasEnding member own
  exact noDot (spelled ▸ by simp)

/-- Behind as many links as may be followed a link leads nowhere. -/
theorem not_isDirectory_wound (standing : ∀ place, place <+: folder.parts → around.tree.entry? place = some .directory)
    (loop : around.tree.entry? (folder.parts ++ [name]) = some (.link ".")) {other target : String}
    (also : Legal other) (link : around.tree.entry? (folder.parts ++ [other]) = some (.link target)) :
    around.isDirectory (wound folder linkLimit name [other]).toString = false := by
  have named := (Path.isPart_iff.mp also.1).2
  rw [isDirectory_eq, decide_eq_false_iff_not, kind?_eq_some_iff,
    seek_wound isFolder legal standing loop (Nat.le_refl _) (by simpa using also) (.inr rfl),
    follow_name (standing _ List.prefix_rfl) (Nat.not_lt.mpr also.2.2.2) ⟨named, also.2.2.1⟩, link]
  rintro ⟨_, location, entry, found, _⟩
  split at found
  · cases found
  · simp [followLink] at found

end Wound

/-! ### Behind many links -/

def sampleFolder : Path := ⟨.root, ["r"]⟩

theorem isFolder_sampleFolder : sampleFolder.IsFolder := ⟨rfl, by decide, by unfold Legal; decide⟩

theorem standing_sampleFolder {tree : FileTree} (stands : tree.entry? ["r"] = some .directory) :
    ∀ place, place <+: sampleFolder.parts → tree.entry? place = some .directory := by
  intro place prefixed
  rcases List.prefix_cons_iff.mp prefixed with rfl | ⟨rest, rfl, below⟩
  · rfl
  · rw [List.prefix_nil.mp below]
    exact stands

/-- Links to directories under the names of files, and a link to the directory that they stand in. -/
def linkedSample : Surroundings where
  tree := ⟨[(["r"], .directory), (["r", "d"], .directory), (["r", "l"], .link "."), (["r", "x.sln"], .link "d"),
    (["r", "x.cs"], .link "d")], by decide⟩
  directory := ["r"]
  home := "/r"

def linkedDetour : Path := wound sampleFolder linkLimit "l" []

theorem linkedSample_lawful : linkedSample.Lawful := by
  unfold Lawful Nameable Legal
  decide +kernel

theorem legal_loop : Legal "l" := by
  unfold Legal
  decide

theorem isFolder_linkedDetour : linkedDetour.IsFolder := isFolder_wound isFolder_sampleFolder legal_loop (by simp)

theorem not_bare_linkedSample (enter : Nat → String → Bool) (folders : List String) (name : String) :
    ¬ linkedSample.Bare enter ["r"] folders name := by
  intro bare
  have below : ["r"] ++ folders ++ [name] ≠ [] := by simp
  have listed := (entry?_ne_none_iff below).mp bare.present
  have here : folders = [] := by
    have sizes : ∀ location ∈ linkedSample.tree.entries.map Prod.fst, location.length ≤ 2 := by decide
    have size := sizes _ listed
    simp only [List.length_append, List.length_singleton] at size
    exact List.length_eq_zero_iff.mp (by omega)
  subst here
  have up : linkedSample.tree.Walk ["r"] ["."] 0 ["r"] := .stay rfl (.done _)
  have stands : linkedSample.tree.entry? ["r", "d"] = some .directory := rfl
  have down : linkedSample.tree.Walk ["r"] ["d"] 0 ["r", "d"] := .enter (by decide) (by simp [stands]) (.done _)
  simp [linkedSample] at listed
  rcases listed with rfl | rfl | rfl | rfl
  · exact bare.plain rfl
  · exact bare.noLink "." 0 ["r"] rfl up rfl
  · exact bare.noLink "d" 0 ["r", "d"] rfl down rfl
  · exact bare.noLink "d" 0 ["r", "d"] rfl down rfl

theorem locate?_linkedDetour : linkedSample.locate? true linkedDetour.toString = some ["r"] := by
  have standing := standing_sampleFolder (show linkedSample.tree.entry? ["r"] = some .directory by rfl)
  refine locate?_wound isFolder_sampleFolder legal_loop standing rfl (Nat.le_refl _)
    (readable_wound (by decide) (by decide) linkLimit) ?_
  rw [length_wound isFolder_sampleFolder legal_loop]
  decide

theorem isDirectory_linkedDetour : linkedSample.isDirectory linkedDetour.toString = true :=
  isDirectory_iff.mpr ⟨_, locate?_linkedDetour, rfl⟩

theorem not_isDescriptor_linkedDetour : isDescriptor linkedDetour.toString = false :=
  not_isDescriptor_wound isFolder_sampleFolder legal_loop (by decide) (by decide)

/-- Behind too many links, though, links count as files. -/
theorem found_linkedDetour (enter : Nat → String → Bool) {name : String} (file : name ∈ ["x.sln", "x.cs"]) :
    linkedSample.Found enter 0 linkedDetour.toString ["r"] [] name := by
  have also : Legal name := by
    have both : ∀ other ∈ ["x.sln", "x.cs"], Legal other := by unfold Legal; decide
    exact both name file
  have standing := standing_sampleFolder (show linkedSample.tree.entry? ["r"] = some .directory by rfl)
  have loop : linkedSample.tree.entry? (sampleFolder.parts ++ ["l"]) = some (.link ".") := rfl
  have link : linkedSample.tree.entry? (sampleFolder.parts ++ [name]) = some (.link "d") := by
    simp only [List.mem_cons, List.not_mem_nil, or_false] at file
    rcases file with rfl | rfl <;> rfl
  refine ⟨trivial, fun place prefixed => ?_, ?_, ?_, ?_, ?_⟩
  · rw [List.prefix_nil.mp prefixed]
    rfl
  · unfold linkedDetour
    rw [List.foldl_nil, length_wound isFolder_sampleFolder legal_loop]
    decide
  · exact fun missing => nomatch missing.symm.trans link
  · exact fun directory => nomatch directory.symm.trans link
  · unfold linkedDetour
    rw [List.foldl_nil, below_wound isFolder_sampleFolder legal_loop]
    exact not_isDirectory_wound isFolder_sampleFolder legal_loop standing loop also link

/-! ### Below long paths -/

def repeatLetter (c : Char) (many : Nat) : String := String.ofList (List.replicate many c)

theorem length_repeatLetter {c : Char} (small : c.toNat < 0x80) (many : Nat) :
    (Text.Utf8.ofString (repeatLetter c many)).length = many := by
  have one : Text.Utf8.encodeChar c = [c.toNat.toUInt8] := by
    unfold Text.Utf8.encodeChar
    exact if_pos small
  unfold repeatLetter Text.Utf8.ofString Text.Utf8.encode
  rw [String.toList_ofList, List.length_flatMap, List.map_replicate, one]
  simp

theorem mem_repeatLetter {c d : Char} {many : Nat} (member : d ∈ (repeatLetter c many).toList) : d = c := by
  rw [repeatLetter, String.toList_ofList] at member
  exact List.eq_of_mem_replicate member

theorem nameable_repeatLetter {c : Char} (small : c.toNat < 0x80) (letter : c ≠ '/' ∧ c ≠ '.' ∧ c ≠ '\x00')
    {many : Nat} (some : 0 < many) (few : many ≤ nameLimit) : Nameable (repeatLetter c many) := by
  have inside : c ∈ (repeatLetter c many).toList := by
    rw [repeatLetter, String.toList_ofList]
    exact List.mem_replicate.mpr ⟨Nat.pos_iff_ne_zero.mp some, rfl⟩
  refine ⟨⟨Path.isPart_iff.mpr ⟨?_, ?_⟩, fun slash => letter.1 (mem_repeatLetter slash).symm, ?_,
    by rwa [length_repeatLetter small]⟩, fun null => letter.2.2 (mem_repeatLetter null).symm⟩
  · intro empty
    rw [empty] at inside
    cases inside
  · intro dot
    rw [dot] at inside
    exact letter.2.1 (by simpa using inside)
  · intro dots
    rw [dots] at inside
    exact letter.2.1 (by simpa using inside)

theorem repeatLetter_not_mem {c : Char} {texts : List String}
    (others : ∀ text ∈ texts, text.toList.all (· = c) = false) (many : Nat) : repeatLetter c many ∉ texts := by
  intro member
  obtain ⟨d, inside, other⟩ := List.all_eq_false.mp (others _ member)
  exact other (decide_eq_true (mem_repeatLetter inside))

theorem not_isHidden_repeatLetter {c : Char} (letter : c ≠ '.') (many : Nat) :
    isHidden (repeatLetter c many) = false := by
  rw [Bool.eq_false_iff]
  intro hidden
  obtain ⟨rest, spelled⟩ := List.isPrefixOf_iff_prefix.mp hidden
  exact letter (mem_repeatLetter (spelled ▸ List.mem_cons_self : '.' ∈ (repeatLetter c many).toList)).symm

theorem lowerText_repeatLetter {c : Char} (small : Text.lower c = c) (many : Nat) :
    Text.lowerText (repeatLetter c many) = repeatLetter c many := by
  rw [Text.lowerText, repeatLetter, String.toList_ofList, List.map_replicate, small]

def loopName : String := repeatLetter 'l' 250

def outerName : String := repeatLetter 'm' 200

def innerName : String := repeatLetter 'n' 200

theorem nameable_loopName : Nameable loopName :=
  nameable_repeatLetter (by decide) (by decide) (by decide) (by decide)

theorem nameable_outerName : Nameable outerName :=
  nameable_repeatLetter (by decide) (by decide) (by decide) (by decide)

theorem nameable_innerName : Nameable innerName :=
  nameable_repeatLetter (by decide) (by decide) (by decide) (by decide)

theorem loopName_ne_outerName : loopName ≠ outerName := by
  intro same
  have sizes := congrArg (fun text => (Text.Utf8.ofString text).length) same
  simp only [loopName, outerName, length_repeatLetter (show 'l'.toNat < 0x80 by decide),
    length_repeatLetter (show 'm'.toNat < 0x80 by decide)] at sizes
  omega

/-- Files two folders deep, and a link to the directory that the first of them stands in. -/
def nestedSample : Surroundings where
  tree := ⟨[(["r"], .directory), (["r", loopName], .link "."), (["r", outerName], .directory),
    (["r", outerName, innerName], .directory), (["r", outerName, innerName, "x.sln"], .file []),
    (["r", outerName, innerName, "x.cs"], .file [])], by simp [loopName_ne_outerName]⟩
  directory := ["r"]
  home := "/r"

/-- A path that leaves no room for the names of two folders. -/
def nestedDetour : Path := wound sampleFolder 15 loopName []

theorem nestedSample_lawful : nestedSample.Lawful := by
  intro name member
  have others : ∀ other ∈ ["r", "x.sln", "x.cs"], Nameable other := by
    unfold Nameable Legal
    decide
  simp [nestedSample, names] at member
  rcases member with rfl | rfl | rfl | rfl | rfl | rfl
  · exact others _ (by simp)
  · exact nameable_loopName
  · exact nameable_outerName
  · exact nameable_innerName
  · exact others _ (by simp)
  · exact others _ (by simp)

theorem isFolder_nestedDetour : nestedDetour.IsFolder :=
  isFolder_wound isFolder_sampleFolder nameable_loopName.1 (by simp)

theorem length_nestedDetour : (Text.Utf8.ofString nestedDetour.toString).length = 3767 := by
  have size : (Text.Utf8.ofString loopName).length = 250 := length_repeatLetter (by decide) 250
  unfold nestedDetour
  rw [length_wound isFolder_sampleFolder nameable_loopName.1, size]
  decide

theorem locate?_nestedDetour : nestedSample.locate? true nestedDetour.toString = some ["r"] := by
  have short : (Text.Utf8.ofString nestedDetour.toString).length ≤ pathLimit := by
    rw [length_nestedDetour]
    decide
  refine locate?_wound isFolder_sampleFolder nameable_loopName.1 (standing_sampleFolder rfl) ?_ (by decide)
    (readable_wound (by decide) nameable_loopName.2 15) short
  simp [nestedSample, entry?, sampleFolder]

theorem isDirectory_nestedDetour : nestedSample.isDirectory nestedDetour.toString = true :=
  isDirectory_iff.mpr ⟨_, locate?_nestedDetour, rfl⟩

theorem not_mem_loopName : '.' ∉ loopName.toList := fun inside => absurd (mem_repeatLetter inside) (by decide)

theorem not_isDescriptor_nestedDetour : isDescriptor nestedDetour.toString = false :=
  not_isDescriptor_wound isFolder_sampleFolder nameable_loopName.1 (by decide) not_mem_loopName

theorem bare_nestedSample {enter : Nat → String → Bool} (entered : enter 0 outerName = true ∧ enter 1 innerName = true)
    {name : String} (file : name ∈ ["x.sln", "x.cs"]) : nestedSample.Bare enter ["r"] [outerName, innerName] name := by
  have stands : nestedSample.tree.entry? ["r", outerName, innerName, name] = some (.file []) := by
    simp only [List.mem_cons, List.not_mem_nil, or_false] at file
    rcases file with rfl | rfl <;> simp [nestedSample, entry?]
  refine ⟨⟨entered.1, entered.2, trivial⟩, fun place prefixed => ?_, by simp [stands], by simp [stands],
    fun target links there link => ?_⟩
  · have either : place ∈ [[], [outerName], [outerName, innerName]] := (List.mem_inits _ _).mpr prefixed
    simp only [List.mem_cons, List.not_mem_nil, or_false] at either
    rcases either with rfl | rfl | rfl <;> simp [nestedSample, entry?, loopName_ne_outerName]
  · cases stands.symm.trans link

/-- They are not found on the detour, nor is anything but the link itself. -/
theorem eq_of_found_nestedDetour {enter : Nat → String → Bool} {name : String} {folders : List String}
    (found : nestedSample.Found enter 0 nestedDetour.toString ["r"] folders name) : name = loopName := by
  have outer {first : String} (stands : nestedSample.tree.entry? (["r"] ++ [first]) = some .directory) :
      first = outerName := by
    by_contra other
    by_cases looped : loopName = first <;> simp [nestedSample, entry?, Ne.symm other, looped] at stands
  have inner {second : String} (stands : nestedSample.tree.entry? (["r"] ++ [outerName, second]) ≠ none) :
      second = innerName := by
    by_contra other
    simp [nestedSample, entry?, Ne.symm other] at stands
  cases folders with
  | nil =>
    have present := found.present
    have plain := found.plain
    by_contra other
    by_cases outside : outerName = name <;> simp [nestedSample, entry?, Ne.symm other, outside] at present plain
  | cons first rest =>
    obtain rfl := outer (found.standing [first] (by simp))
    cases rest with
    | nil =>
      obtain rfl := inner found.present
      exact absurd (by simp [nestedSample, entry?]) found.plain
    | cons second more =>
      -- the path of the inner folder is too long already
      have next := found.standing [outerName, second] (by simp)
      obtain rfl := inner (by rw [next]; exact Option.some_ne_none _)
      have filled := Surroundings.toString_ne_empty isFolder_nestedDetour.proper
      have some : below (below nestedDetour.toString outerName) innerName ≠ "" := below_ne_empty (below_ne_empty filled)
      have size : (Text.Utf8.ofString (below (below nestedDetour.toString outerName) innerName)).length = 4169 := by
        have open_ := isFolder_nestedDetour.proper.endsIn isFolder_nestedDetour.filled
        have one : (Text.Utf8.ofString outerName).length = 200 := length_repeatLetter (by decide) 200
        have two : (Text.Utf8.ofString innerName).length = 200 := length_repeatLetter (by decide) 200
        rw [length_below (below_ne_empty filled) (endsIn_below filled nameable_outerName.1.isStep),
          length_below filled open_, length_nestedDetour, one, two]
      have short := found.short
      rw [List.foldl_cons, List.foldl_cons] at short
      have longer := length_le_length_foldl_below some more
      rw [size] at longer
      exact absurd (Nat.le_trans longer short) (by decide)

end Surroundings
end UsingCensus
