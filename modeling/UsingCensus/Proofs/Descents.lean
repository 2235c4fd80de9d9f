import UsingCensus.Proofs.GrownListings
import UsingCensus.Proofs.Onward

/-!
What a walk through directories finds. Main statements: it finds what stands in the directory that it starts from,
or below that in real directories that are entered, unless their paths are too long; and it finds a directory's own
files by name before those of its subdirectories by name.
-/
namespace UsingCensus

open FileTree Wildcard

/-! ### Spellings -/

namespace Path

variable {directory : Path} {depth : Nat} {name : String}

def within (directory : Path) (place : List String) : Path := ⟨directory.anchor, directory.parts ++ place⟩

theorem within_injective (directory : Path) : Function.Injective directory.within := fun _ _ same =>
  List.append_cancel_left (congrArg parts same)

theorem name_within (directory : Path) (folders : List String) (name : String) :
    (directory.within (folders ++ [name])).name = name := by
  simp [within, Path.name, ← List.append_assoc]

theorem within_child (directory : Path) (name : String) (place : List String) :
    (directory.child name).within place = directory.within (name :: place) := by
  simp [within, child]

theorem spelled_zero (path : Path) : path.spelled 0 = path.toString := by
  unfold spelled
  split
  · rename_i bare
    have none : path.parts = [] := List.length_eq_zero_iff.mp bare.2
    unfold Path.toString
    rw [if_pos ⟨bare.1, none⟩, none]
    rfl
  · rfl

theorem intercalate_concat {parts : List String} (some : parts ≠ []) (name : String) :
    String.intercalate "/" (parts ++ [name]) = String.intercalate "/" parts ++ "/" ++ name := by
  refine String.toList_inj.mp ?_
  have slash : "/".toList = ['/'] := rfl
  rw [String.toList_append, String.toList_append, String.toList_intercalate, String.toList_intercalate, slash,
    Text.intercalate_eq_joinWith, Text.intercalate_eq_joinWith, List.map_append,
    Text.joinWith_append (by simpa using some) (by simp), List.append_assoc]
  rfl

theorem endsIn_intercalate {parts : List String} (steps : ∀ part ∈ parts, IsStep part) :
    Text.endsIn (String.intercalate "/" ("." :: parts)) "/" = false := by
  rcases List.eq_nil_or_concat parts with rfl | ⟨front, last, whole⟩
  · decide
  · rw [List.concat_eq_append] at whole
    rw [whole, ← List.cons_append, intercalate_concat (List.cons_ne_nil _ _)]
    exact endsIn_append _ (steps last (whole ▸ List.mem_concat_self))

theorem toString_of_some {path : Path} (some : ¬ (path.anchor = .here ∧ path.parts = [])) :
    path.toString = path.anchor.text ++ String.intercalate "/" path.parts :=
  if_neg some

theorem toString_child_eq_below (proper : directory.Proper) (some : ¬ (directory.anchor = .here ∧ directory.parts = []))
    (step : IsStep name) : (directory.child name).toString = below directory.toString name := by
  have filled := Surroundings.toString_ne_empty proper
  have spelled : (directory.child name).toString =
      directory.anchor.text ++ String.intercalate "/" (directory.parts ++ [name]) :=
    toString_of_some (by simp [child])
  by_cases bare : directory.parts = []
  · have slash : Text.endsIn directory.toString "/" = true := by
      obtain ⟨anchor, parts⟩ := directory
      cases bare
      cases anchor with
      | here => exact absurd ⟨rfl, rfl⟩ some
      | root => decide
      | doubleRoot => decide
    have text : directory.toString = directory.anchor.text := by
      rw [toString_of_some some, bare]
      exact String.append_empty
    rw [below_of_endsIn filled step.1 slash, spelled, bare, text]
    rfl
  · rw [below_of_not_endsIn filled (proper.endsIn bare), spelled, toString_of_some some, intercalate_concat bare,
      String.append_assoc, String.append_assoc, String.append_assoc]

theorem spelled_child (proper : directory.Proper) (deep : depth ≤ directory.parts.length) (step : IsStep name) :
    (directory.child name).spelled (depth + 1) = below (directory.spelled depth) name := by
  have same : (directory.child name).anchor = .here ∧ (directory.child name).parts.length = depth + 1 ↔
      directory.anchor = .here ∧ directory.parts.length = depth := by
    simp [child]
  unfold spelled
  by_cases start : directory.anchor = .here ∧ directory.parts.length = depth
  · -- the walk started at the lone dot, which stays in front of all it enters
    rw [if_pos (same.mpr start), if_pos start]
    have dotted : String.intercalate "/" ("." :: directory.parts) ≠ "" := by
      intro empty
      have letters := congrArg String.toList empty
      cases parts : directory.parts with
      | nil => simp [parts] at letters
      | cons first rest =>
        rw [parts, String.toList_intercalate] at letters
        simp at letters
    rw [below_of_not_endsIn dotted (endsIn_intercalate fun part member =>
      ⟨(isPart_iff.mp (proper part member).1).1, (proper part member).2⟩)]
    exact intercalate_concat (List.cons_ne_nil _ _) name
  · rw [if_neg (mt same.mp start), if_neg start]
    refine toString_child_eq_below proper (fun lone => start ⟨lone.1, ?_⟩) step
    rw [lone.2] at deep ⊢
    exact (Nat.le_zero.mp deep).symm

end Path

namespace Surroundings

variable {around : Surroundings} {enter : Nat → String → Bool} {text name : String} {base : Location}
  {directory path : Path} {depth fuel : Nat} {folders : List String}

/-- All names in the tree are names. -/
def Lawful (around : Surroundings) : Prop := ∀ name ∈ around.tree.names, Nameable name

/-- A file that a walk finds: it stands below real directories that are entered one after the other, none of which
has a path that is too long, and neither is it a directory nor does it lead to one. -/
structure Found (around : Surroundings) (enter : Nat → String → Bool) (depth : Nat) (text : String) (base : Location)
    (folders : List String) (name : String) : Prop where
  entered : Mirrors.Entered enter depth folders
  standing : ∀ place, place <+: folders → around.tree.entry? (base ++ place) = some .directory
  short : (Text.Utf8.ofString (folders.foldl below text)).length ≤ pathLimit
  present : around.tree.entry? (base ++ folders ++ [name]) ≠ none
  plain : around.tree.entry? (base ++ folders ++ [name]) ≠ some .directory
  noLink : around.isDirectory (below (folders.foldl below text) name) = false

/-- How a walk spells a directory that it has come to, and where that stands. -/
structure Visited (around : Surroundings) (depth : Nat) (directory : Path) (text : String) (base : Location) : Prop
    extends around.Reaches text base where
  proper : directory.Proper
  deep : depth ≤ directory.parts.length
  spelled : directory.spelled depth = text

theorem Visited.child (visited : around.Visited depth directory text base) (nameable : Nameable name)
    (stands : around.tree.entry? (base ++ [name]) = some .directory) :
    around.Visited (depth + 1) (directory.child name) (below text name) (base ++ [name]) where
  toReaches := visited.toReaches.child nameable stands
  proper := by
    intro part member
    rcases List.mem_append.mp member with above | own
    · exact visited.proper part above
    · rw [List.mem_singleton.mp own]
      exact ⟨nameable.1.1, nameable.1.2.1⟩
  deep := by simpa [Path.child] using visited.deep
  spelled := by rw [Path.spelled_child visited.proper visited.deep nameable.1.isStep, visited.spelled]

theorem Lawful.nameable (lawful : around.Lawful) (present : around.tree.entry? (base ++ [name]) ≠ none) :
    Nameable name := by
  obtain ⟨entry, stands⟩ := Option.ne_none_iff_exists'.mp present
  exact lawful name (mem_names stands)

/-! ### What is found -/

theorem length_le_length_foldl_below (filled : text ≠ "") (folders : List String) :
    (Text.Utf8.ofString text).length ≤ (Text.Utf8.ofString (folders.foldl below text)).length := by
  induction folders generalizing text with
  | nil => exact Nat.le_refl _
  | cons folder more ih => exact Nat.le_trans (length_le_length_below filled folder) (ih (below_ne_empty filled))

theorem add_length_le_length_foldl_below (filled : text ≠ "") (named : ∀ folder ∈ folders, folder ≠ "") :
    (Text.Utf8.ofString text).length + folders.length ≤ (Text.Utf8.ofString (folders.foldl below text)).length := by
  induction folders generalizing text with
  | nil => exact Nat.le_refl _
  | cons folder more ih =>
    obtain ⟨own, others⟩ := List.forall_mem_cons.mp named
    have longer := length_lt_length_below filled own
    have further : below text folder ≠ "" := below_ne_empty filled
    have rest := ih further others
    rw [List.foldl_cons, List.length_cons]
    omega

theorem Found.nameable (lawful : around.Lawful) (found : around.Found enter depth text base folders name) :
    ∀ part ∈ folders ++ [name], Nameable part := by
  intro part member
  rcases List.mem_append.mp member with inner | own
  · obtain ⟨front, back, rfl⟩ := List.append_of_mem inner
    have stands := found.standing (front ++ [part]) ⟨back, by simp⟩
    rw [← List.append_assoc] at stands
    exact lawful.nameable (by rw [stands]; exact Option.some_ne_none _)
  · rw [List.mem_singleton.mp own]
    exact lawful.nameable found.present

theorem found_cons_iff {folder : String} {more : List String} :
    around.Found enter depth text base (folder :: more) name ↔
    (enter depth folder = true ∧ around.tree.entry? base = some .directory ∧
      around.tree.entry? (base ++ [folder]) = some .directory) ∧
      around.Found enter (depth + 1) (below text folder) (base ++ [folder]) more name := by
  have place (rest : List String) : base ++ folder :: rest = base ++ [folder] ++ rest := by simp
  constructor
  · intro found
    have own := found.standing [folder] (by simp)
    refine ⟨⟨found.entered.1, ?_, own⟩, found.entered.2, fun rest prefixed => ?_, found.short, ?_, ?_, found.noLink⟩
    · simpa using found.standing [] List.nil_prefix
    · exact place rest ▸ found.standing (folder :: rest) (List.cons_prefix_cons.mpr ⟨rfl, prefixed⟩)
    · exact place more ▸ found.present
    · exact place more ▸ found.plain
  · rintro ⟨⟨entered, start, own⟩, found⟩
    refine ⟨⟨entered, found.entered⟩, fun rest prefixed => ?_, found.short, ?_, ?_, found.noLink⟩
    · rcases List.prefix_cons_iff.mp prefixed with rfl | ⟨rest, rfl, deeper⟩
      · rwa [List.append_nil]
      · exact place rest ▸ found.standing rest deeper
    · exact place more ▸ found.present
    · exact place more ▸ found.plain

theorem visited_toString (proper : directory.Proper) (found : around.locate? true directory.toString = some base)
    (stands : around.tree.entry? base = some .directory) : around.Visited 0 directory directory.toString base where
  toReaches := by
    have reaches := reaches_ofString found stands
    rwa [Path.ofString_toString proper] at reaches
  proper := proper
  deep := Nat.zero_le _
  spelled := Path.spelled_zero _

namespace Visited

variable (visited : around.Visited depth directory text base)
include visited

theorem leadsToDirectory_eq (nameable : Nameable name) : around.leadsToDirectory depth directory name =
    (around.isDirectory (below text name) || around.holdsDirectory text name) := by
  unfold leadsToDirectory
  rw [Path.spelled_child visited.proper visited.deep nameable.1.isStep, visited.spelled]

theorem own_iff (lawful : around.Lawful) : (name ∈ sortNames (around.namesOf (directory.spelled depth)) ∧
    around.leadsToDirectory depth directory name = false) ↔ around.Found enter depth text base [] name := by
  rw [mem_sortNames, visited.spelled, visited.mem_namesOf_iff]
  constructor
  · rintro ⟨⟨short, present⟩, plain⟩
    rw [visited.leadsToDirectory_eq (lawful.nameable present), Bool.or_eq_false_iff,
      visited.holdsDirectory_eq short, decide_eq_false_iff_not] at plain
    refine ⟨trivial, fun place prefixed => ?_, short, by rwa [List.append_nil], by rw [List.append_nil]; exact plain.2,
      plain.1⟩
    rw [List.prefix_nil.mp prefixed, List.append_nil]
    exact visited.stands
  · intro found
    have present := found.present
    have plain := found.plain
    rw [List.append_nil] at present plain
    refine ⟨⟨found.short, present⟩, ?_⟩
    rw [visited.leadsToDirectory_eq (lawful.nameable present), Bool.or_eq_false_iff,
      visited.holdsDirectory_eq found.short, decide_eq_false_iff_not]
    exact ⟨found.noLink, plain⟩

/-- The folders that are entered. -/
theorem folder_iff (lawful : around.Lawful) : (name ∈ sortNames (around.namesOf (directory.spelled depth)) ∧
      (around.leadsToDirectory depth directory name && enter depth name &&
        !around.isLink ((directory.child name).spelled (depth + 1))) = true) ↔
    (Text.Utf8.ofString text).length ≤ pathLimit ∧ enter depth name = true ∧
      around.tree.entry? (base ++ [name]) = some .directory := by
  rw [mem_sortNames, visited.spelled, visited.mem_namesOf_iff]
  simp only [Bool.and_eq_true, Bool.not_eq_true']
  constructor
  · rintro ⟨⟨short, present⟩, ⟨leads, entered⟩, noLink⟩
    have nameable := lawful.nameable present
    rw [visited.leadsToDirectory_eq nameable] at leads
    rw [Path.spelled_child visited.proper visited.deep nameable.1.isStep, visited.spelled] at noLink
    exact ⟨short, entered, (visited.entered_iff nameable short).mp ⟨leads, noLink⟩⟩
  · rintro ⟨short, entered, stands⟩
    have present : around.tree.entry? (base ++ [name]) ≠ none := by
      rw [stands]
      exact Option.some_ne_none _
    have nameable := lawful.nameable present
    obtain ⟨leads, noLink⟩ := (visited.entered_iff nameable short).mpr stands
    rw [visited.leadsToDirectory_eq nameable,
      Path.spelled_child visited.proper visited.deep nameable.1.isStep, visited.spelled]
    exact ⟨⟨short, present⟩, ⟨leads, entered⟩, noLink⟩

end Visited

theorem mem_filesBelow_iff (lawful : around.Lawful) (visited : around.Visited depth directory text base) :
    path ∈ around.filesBelow enter fuel depth directory ↔ ∃ folders name, folders.length < fuel ∧
      path = directory.within (folders ++ [name]) ∧
        around.Found enter depth text base folders name := by
  induction fuel generalizing depth directory text base with
  | zero => simp [filesBelow]
  | succ fewer ih =>
    rw [filesBelow, List.mem_append, List.mem_map, List.mem_flatMap]
    constructor
    · rintro (⟨name, member, rfl⟩ | ⟨folder, member, deeper⟩)
      · have own := List.mem_filter.mp member
        rw [Bool.not_eq_true'] at own
        exact ⟨[], name, Nat.zero_lt_succ _, rfl, (visited.own_iff lawful).mp own⟩
      · obtain ⟨short, entered, stands⟩ := (visited.folder_iff lawful).mp (List.mem_filter.mp member)
        have present : around.tree.entry? (base ++ [folder]) ≠ none := by
          rw [stands]
          exact Option.some_ne_none _
        obtain ⟨folders, name, few, same, found⟩ :=
          (ih (visited.child (lawful.nameable present) stands)).mp deeper
        refine ⟨folder :: folders, name, Nat.succ_lt_succ few, ?_,
          found_cons_iff.mpr ⟨⟨entered, visited.stands, stands⟩, found⟩⟩
        rw [same, Path.within_child, List.cons_append]
    · rintro ⟨folders, name, few, rfl, found⟩
      cases folders with
      | nil =>
        have own := (visited.own_iff lawful).mpr found
        exact .inl ⟨name, List.mem_filter.mpr ⟨own.1, by rw [own.2]; rfl⟩, rfl⟩
      | cons folder more =>
        obtain ⟨⟨entered, _, stands⟩, later⟩ := found_cons_iff.mp found
        have short := Nat.le_trans (length_le_length_foldl_below visited.filled (folder :: more)) found.short
        have member := (visited.folder_iff lawful).mpr ⟨short, entered, stands⟩
        have present : around.tree.entry? (base ++ [folder]) ≠ none := by
          rw [stands]
          exact Option.some_ne_none _
        refine .inr ⟨folder, List.mem_filter.mpr member, (ih (visited.child (lawful.nameable present) stands)).mpr
          ⟨more, name, Nat.lt_of_succ_lt_succ few, ?_, later⟩⟩
        rw [Path.within_child, List.cons_append]

theorem mem_walk_iff (lawful : around.Lawful) (visited : around.Visited 0 directory text base) :
    path ∈ around.walk enter directory ↔ ∃ folders name,
      path = directory.within (folders ++ [name]) ∧
        around.Found enter 0 text base folders name := by
  unfold walk
  rw [mem_filesBelow_iff lawful visited]
  constructor
  · rintro ⟨folders, name, _, found⟩
    exact ⟨folders, name, found⟩
  · rintro ⟨folders, name, same, found⟩
    exact ⟨folders, name, Nat.lt_succ_of_le (length_le_of_standing found.standing), same, found⟩

/-! ### In which order -/

/-- One file below a directory comes before another: the directory's own files are first, by name, then come those
of its subdirectories, by name. -/
def Precedes : List String → List String → Prop
  | [first], [second] => first < second
  | [_], _ :: _ :: _ => True
  | first :: inner :: more, second :: other :: rest =>
    first < second ∨ (first = second ∧ Precedes (inner :: more) (other :: rest))
  | _, _ => False

theorem pairwise_lt_sortNames {names : List String} (distinct : names.Nodup) :
    (sortNames names).Pairwise (· < ·) := by
  have apart : (sortNames names).Nodup := (sortNames_perm names).nodup_iff.mpr distinct
  refine ((pairwise_sortNames names).and apart).imp fun {a b} both => ?_
  by_contra notLess
  exact both.2 (String.le_antisymm both.1 (String.not_lt.mp notLess))

/-- The paths lead from the directory to files of which one comes before the other. -/
def InOrder (directory path other : Path) : Prop :=
  ∃ first second, path.parts = directory.parts ++ first ∧ other.parts = directory.parts ++ second ∧
    Precedes first second

theorem inOrder_child {other : Path} (later : path ∈ around.filesBelow enter fuel depth (directory.child name))
    (inOrder : InOrder (directory.child name) path other) : InOrder directory path other := by
  obtain ⟨inner, more, same⟩ := exists_parts_of_mem_filesBelow later
  obtain ⟨first, second, one, two, precedes⟩ := inOrder
  rw [same] at one
  obtain rfl := List.append_cancel_left one
  cases second with
  | nil => cases more <;> cases precedes
  | cons next rest =>
    refine ⟨name :: inner :: more, name :: next :: rest, ?_, ?_, .inr ⟨rfl, precedes⟩⟩
    · rw [same]
      simp [Path.child]
    · rw [two]
      simp [Path.child]

theorem pairwise_filesBelow (around : Surroundings) (enter : Nat → String → Bool) (fuel depth : Nat)
    (directory : Path) : (around.filesBelow enter fuel depth directory).Pairwise (InOrder directory) := by
  induction fuel generalizing depth directory with
  | zero => exact List.Pairwise.nil
  | succ fewer ih =>
    have names := pairwise_lt_sortNames (nodup_namesOf around (directory.spelled depth))
    rw [filesBelow, List.pairwise_append, List.pairwise_map, List.pairwise_flatMap]
    refine ⟨(names.filter _).imp fun {name other} less => ⟨[name], [other], rfl, rfl, less⟩,
      ⟨fun name _ => ?_, (names.filter _).imp fun {name other} less path here elsewhere there => ?_⟩,
      fun path own other deeper => ?_⟩
    · exact (ih (depth + 1) (directory.child name)).imp_of_mem fun here _ => inOrder_child here
    · obtain ⟨inner, more, one⟩ := exists_parts_of_mem_filesBelow here
      obtain ⟨next, rest, two⟩ := exists_parts_of_mem_filesBelow there
      refine ⟨name :: inner :: more, other :: next :: rest, ?_, ?_, .inl less⟩
      · rw [one]
        simp [Path.child]
      · rw [two]
        simp [Path.child]
    · obtain ⟨name, _, rfl⟩ := List.mem_map.mp own
      obtain ⟨folder, _, found⟩ := List.mem_flatMap.mp deeper
      obtain ⟨inner, more, same⟩ := exists_parts_of_mem_filesBelow found
      refine ⟨[name], folder :: inner :: more, rfl, ?_, trivial⟩
      rw [same]
      simp [Path.child]

end Surroundings
end UsingCensus
