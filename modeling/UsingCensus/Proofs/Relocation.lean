import UsingCensus.Project.Evaluation
import UsingCensus.Proofs.Moving

namespace UsingCensus

/-! ### Lists carried over -/

section Lists

variable {α β : Type} {carry : α → β} {within : α → Prop}

theorem mem_map_iff (apart : ∀ a b, within a → within b → carry a = carry b → a = b) {a : α}
    (inner : within a) {list : List α} (all : ∀ b ∈ list, within b) : carry a ∈ list.map carry ↔ a ∈ list := by
  constructor
  · intro member
    obtain ⟨b, listed, same⟩ := List.mem_map.mp member
    exact apart b a (all b listed) inner same ▸ listed
  · exact List.mem_map_of_mem

variable [DecidableEq α] [DecidableEq β]

theorem map_filter_notMem (apart : ∀ a b, within a → within b → carry a = carry b → a = b)
    {list gone : List α} (all : ∀ a ∈ list, within a) (also : ∀ a ∈ gone, within a) :
    (list.map carry).filter (· ∉ gone.map carry) = (list.filter (· ∉ gone)).map carry := by
  rw [List.filter_map]
  refine congrArg _ (List.filter_congr fun a member => ?_)
  have same := mem_map_iff apart (all a member) also
  simp only [Function.comp_apply, same]

theorem map_eraseDups (apart : ∀ a b, within a → within b → carry a = carry b → a = b) (list : List α)
    (all : ∀ a ∈ list, within a) : (list.map carry).eraseDups = list.eraseDups.map carry := by
  match list with
  | [] => rfl
  | a :: rest =>
    have later := (List.forall_mem_cons.mp all).2
    have others : (rest.map carry).filter (fun b => !b == carry a) = (rest.filter fun b => !b == a).map carry := by
      rw [List.filter_map]
      refine congrArg _ (List.filter_congr fun b member => ?_)
      have same : carry b = carry a ↔ b = a :=
        ⟨apart b a (later b member) (all a List.mem_cons_self), congrArg carry⟩
      simp [same]
    have shorter := List.length_filter_le (fun b => !b == a) rest
    rw [List.map_cons, List.eraseDups_cons, List.eraseDups_cons, others, List.map_cons,
      map_eraseDups apart (rest.filter fun b => !b == a) fun b member => later b (List.mem_of_mem_filter member)]
termination_by list.length
decreasing_by
  rw [List.length_cons]
  omega

end Lists

/-! ### Paths below the folder -/

namespace Path

variable {here there : Path}

/-- The path is that of the folder or leads below it. -/
def Within (folder path : Path) : Prop := path.anchor = folder.anchor ∧ folder.parts <+: path.parts

def moved (here there path : Path) : Path :=
  ⟨there.anchor, there.parts ++ path.parts.drop here.parts.length⟩

theorem within_iff {folder path : Path} :
    folder.Within path ↔ ∃ rest, path = ⟨folder.anchor, folder.parts ++ rest⟩ := by
  obtain ⟨anchor, parts⟩ := path
  constructor
  · rintro ⟨rfl, rest, rfl⟩
    exact ⟨rest, rfl⟩
  · rintro ⟨rest, same⟩
    cases same
    exact ⟨rfl, rest, rfl⟩

@[simp] theorem moved_append (here there : Path) (rest : List String) :
    moved here there ⟨here.anchor, here.parts ++ rest⟩ = ⟨there.anchor, there.parts ++ rest⟩ := by
  rw [moved, List.drop_left]

theorem moved_injective {a b : Path} (inner : here.Within a) (also : here.Within b)
    (same : moved here there a = moved here there b) : a = b := by
  obtain ⟨first, rfl⟩ := within_iff.mp inner
  obtain ⟨second, rfl⟩ := within_iff.mp also
  rw [moved_append, moved_append] at same
  rw [List.append_cancel_left (congrArg Path.parts same)]

theorem sortKey_append {folder : Path} (absolute : folder.isAbsolute = true) (rest : List String) :
    sortKey ⟨folder.anchor, folder.parts ++ rest⟩ = folder.anchor.text :: folder.parts ++ rest := by
  unfold sortKey
  rw [if_neg (by simpa [isAbsolute] using absolute), List.cons_append]

theorem precedes_append {folder : Path} (absolute : folder.isAbsolute = true) (first second : List String) :
    precedes ⟨folder.anchor, folder.parts ++ first⟩ ⟨folder.anchor, folder.parts ++ second⟩ =
      !decide (second < first) := by
  unfold precedes
  rw [sortKey_append absolute, sortKey_append absolute]
  simp only [Text.append_lt_append_iff]

theorem map_sort (absolute : here.isAbsolute = true) (also : there.isAbsolute = true) {paths : List Path}
    (all : ∀ path ∈ paths, here.Within path) :
    (sort paths).map (moved here there) = sort (paths.map (moved here there)) := by
  refine List.map_mergeSort fun a first b second => ?_
  obtain ⟨one, rfl⟩ := within_iff.mp (all a first)
  obtain ⟨two, rfl⟩ := within_iff.mp (all b second)
  rw [moved_append, moved_append, precedes_append absolute, precedes_append also]

end Path

namespace Surroundings

open FileTree ProjectFile Xml

variable {around other : Surroundings} {here there : Path}

/-- The second list is the first one, which lies below the folder, moved. -/
def Moved (here there : Path) (paths elsewhere : List Path) : Prop :=
  elsewhere = paths.map (Path.moved here there) ∧ ∀ path ∈ paths, here.Within path

theorem Moved.append {first firstThere second secondThere : List Path} (moved : Moved here there first firstThere)
    (also : Moved here there second secondThere) :
    Moved here there (first ++ second) (firstThere ++ secondThere) := by
  obtain ⟨rfl, all⟩ := moved
  obtain ⟨rfl, others⟩ := also
  exact ⟨List.map_append.symm, List.forall_mem_append.mpr ⟨all, others⟩⟩

theorem Moved.flatMap {α : Type} {list : List α} {paths elsewhere : α → List Path}
    (moved : ∀ a ∈ list, Moved here there (paths a) (elsewhere a)) :
    Moved here there (list.flatMap paths) (list.flatMap elsewhere) := by
  constructor
  · rw [List.map_flatMap]
    exact List.flatMap_congr fun a member => (moved a member).1
  · intro path member
    obtain ⟨a, listed, found⟩ := List.mem_flatMap.mp member
    exact (moved a listed).2 path found

theorem Moved.filter {paths elsewhere gone goneThere : List Path} (moved : Moved here there paths elsewhere)
    (also : Moved here there gone goneThere) :
    Moved here there (paths.filter (· ∉ gone)) (elsewhere.filter (· ∉ goneThere)) := by
  obtain ⟨rfl, all⟩ := moved
  obtain ⟨rfl, others⟩ := also
  refine ⟨?_, fun path member => all path (List.mem_of_mem_filter member)⟩
  exact map_filter_notMem (fun a b => Path.moved_injective) all others

theorem Moved.sorted {paths elsewhere : List Path} (absolute : here.isAbsolute = true)
    (also : there.isAbsolute = true) (moved : Moved here there paths elsewhere) :
    Moved here there (Path.sort paths.eraseDups) (Path.sort elsewhere.eraseDups) := by
  obtain ⟨rfl, all⟩ := moved
  have once : ∀ path ∈ paths.eraseDups, here.Within path := fun path member =>
    all path (List.mem_eraseDups.mp member)
  constructor
  · rw [map_eraseDups (fun a b => Path.moved_injective) paths all, Path.map_sort absolute also once]
  · exact fun path member => once path (List.mem_mergeSort.mp member)

/-! ### Items -/

/-- A part of an item list that does not lead out of the folder. Only patterns ask for a folder whose own path
holds no wildcard. -/
inductive Contained (around : Surroundings) (here there : Path) (part : String) : Prop where
  | unevaluated (expression : ItemList.isUnevaluated part.toList = true)
  | plain (noWildcard : ItemList.hasWildcard part = false) (relative : (Path.ofString part).isAbsolute = false)
      (below : Path.StaysBelow (Path.ofString part).parts)
  | pattern (wildcard : ItemList.hasWildcard part = true) (relative : Text.startsIn part "/" = false)
      (plain : Wildcard.isPattern here.toString = false) (alsoPlain : Wildcard.isPattern there.toString = false)
      (seekable : Wildcard.Seekable (Moves.Known around here there) Legal (Wildcard.patternTail part)
        (here.toString ++ Wildcard.plainTail part))

theorem locate_eq {folder : Path} (isFolder : folder.IsFolder) {part : String}
    (relative : (Path.ofString part).isAbsolute = false) (below : Path.StaysBelow (Path.ofString part).parts) :
    Path.locate folder part =
      ⟨folder.anchor, folder.parts ++ Path.normalParts false (Path.ofString part).parts⟩ := by
  unfold Path.locate Path.join
  rw [if_neg (by rw [relative]; exact Bool.false_ne_true)]
  exact isFolder.normal_append below

namespace Moves

theorem pattern_moved (moves : Moves around other here there) {part : String}
    (plain : Wildcard.isPattern here.toString = false) (alsoPlain : Wildcard.isPattern there.toString = false)
    (seekable : Wildcard.Seekable (Known around here there) Legal (Wildcard.patternTail part)
      (here.toString ++ Wildcard.plainTail part)) :
    Moved here there
      (((around.expand (Wildcard.below here.toString part)).filter around.isFile).map fun found =>
        (Path.ofString found).normal)
      (((other.expand (Wildcard.below there.toString part)).filter other.isFile).map fun found =>
        (Path.ofString found).normal) := by
  have split := Wildcard.splitPattern_below moves.source.toIsFolder plain part
  have also := Wildcard.splitPattern_below moves.goal.toIsFolder alsoPlain part
  generalize Wildcard.below here.toString part = pattern at split ⊢
  generalize Wildcard.below there.toString part = patternThere at also ⊢
  have seek : Wildcard.Seekable (Known around here there) Legal (Wildcard.splitPattern pattern).2
      (Wildcard.splitPattern pattern).1 := by
    rw [split]
    exact seekable
  have carried : Wildcard.splitPattern patternThere =
      (moveText here there (Wildcard.splitPattern pattern).1, (Wildcard.splitPattern pattern).2) := by
    rw [split, also, moveText_append]
  obtain ⟨found, known⟩ := moves.mirrors.expand seek carried
  have spelled (text : String) (sought : Known around here there text) :
      (Path.ofString (moveText here there text)).normal =
          Path.moved here there (Path.ofString text).normal ∧
        here.Within (Path.ofString text).normal := by
    obtain ⟨behind, rfl, inside⟩ := sought
    rw [moveText_append, moves.source.ofString_append inside.continues, moves.goal.ofString_append inside.continues,
      moves.source.normal_append inside.below, moves.goal.normal_append inside.below, Path.moved_append]
    exact ⟨rfl, Path.within_iff.mpr ⟨_, rfl⟩⟩
  constructor
  · rw [found, List.filter_map, List.map_map, List.map_map]
    have files : (around.expand pattern).filter (other.isFile ∘ moveText here there) =
        (around.expand pattern).filter around.isFile :=
      List.filter_congr fun text member => moves.mirrors.isFile (known text member)
    rw [files]
    exact List.map_congr_left fun text member => (spelled text (known text (List.mem_of_mem_filter member))).1
  · intro path member
    obtain ⟨text, listed, rfl⟩ := List.mem_map.mp member
    exact (spelled text (known text (List.mem_of_mem_filter listed))).2

theorem partPaths_moved (moves : Moves around other here there) {part : String}
    (contained : around.Contained here there part) :
    Moved here there (around.partPaths here part) (other.partPaths there part) := by
  unfold partPaths
  by_cases expression : ItemList.isUnevaluated part.toList = true
  · rw [if_pos expression, if_pos expression]
    exact ⟨rfl, by simp⟩
  rw [if_neg expression, if_neg expression]
  cases contained with
  | unevaluated skipped => exact absurd skipped expression
  | plain noWildcard relative below =>
    rw [if_neg (by simp [noWildcard]), if_neg (by simp [noWildcard]), locate_eq moves.source.toIsFolder relative below,
      locate_eq moves.goal.toIsFolder relative below]
    refine ⟨by simp, ?_⟩
    intro path member
    exact Path.within_iff.mpr ⟨_, List.mem_singleton.mp member⟩
  | pattern wildcard relative plain alsoPlain seekable =>
    rw [if_pos wildcard, if_pos wildcard]
    simp only [relative, Bool.false_eq_true, if_false]
    exact moves.pattern_moved plain alsoPlain seekable

theorem itemPaths_moved (moves : Moves around other here there) {items : String}
    (contained : ∀ part ∈ ItemList.parts items, around.Contained here there part) :
    Moved here there (around.itemPaths here items) (other.itemPaths there items) :=
  Moved.flatMap fun part member => moves.partPaths_moved (contained part member)

end Moves

/-- An item none of whose lists leads out of the folder. -/
def ContainedItem (around : Surroundings) (here there : Path) (item : Element) : Prop :=
  ∀ list ∈ ["Include", "Exclude", "Remove"], ∀ part ∈ ItemList.parts (attributeText item list),
    around.Contained here there part

namespace Moves

theorem applyItem_moved (moves : Moves around other here there) {documents elsewhere : List Path} {item : Element}
    (moved : Moved here there documents elsewhere) (contained : around.ContainedItem here there item) :
    Moved here there (around.applyItem here documents item) (other.applyItem there elsewhere item) := by
  have included := moves.itemPaths_moved (contained "Include" (by simp))
  have excluded := moves.itemPaths_moved (contained "Exclude" (by simp))
  have removed := moves.itemPaths_moved (contained "Remove" (by simp))
  exact (moved.append (included.filter excluded)).filter removed

theorem foldl_applyItem_moved (moves : Moves around other here there) {items : List Element}
    {documents elsewhere : List Path} (moved : Moved here there documents elsewhere)
    (contained : ∀ item ∈ items, around.ContainedItem here there item) :
    Moved here there (items.foldl (around.applyItem here) documents)
      (items.foldl (other.applyItem there) elsewhere) := by
  induction items generalizing documents elsewhere with
  | nil => exact moved
  | cons item rest ih =>
    obtain ⟨first, later⟩ := List.forall_mem_cons.mp contained
    exact ih (moves.applyItem_moved moved first) later

end Moves

/-! ### Default items -/

theorem foldl_child (folder : Path) (names : List String) :
    names.foldl Path.child folder = ⟨folder.anchor, folder.parts ++ names⟩ := by
  induction names generalizing folder with
  | nil => rw [List.foldl_nil, List.append_nil]
  | cons name rest ih =>
    rw [List.foldl_cons, ih, Path.child, List.append_assoc, List.singleton_append]

theorem eq_of_mem_filesBelow {enter : Nat → String → Bool} {fuel depth : Nat} {folder path : Path}
    (member : path ∈ around.filesBelow enter fuel depth folder) :
    ∃ rest name, path = ⟨folder.anchor, folder.parts ++ rest ++ [name]⟩ := by
  induction fuel generalizing depth folder with
  | zero => cases member
  | succ fewer ih =>
    rw [filesBelow] at member
    rcases List.mem_append.mp member with own | deeper
    · obtain ⟨name, _, rfl⟩ := List.mem_map.mp own
      exact ⟨[], name, by rw [Path.child, List.append_nil]⟩
    · obtain ⟨inner, _, deeper⟩ := List.mem_flatMap.mp deeper
      obtain ⟨rest, name, rfl⟩ := ih deeper
      exact ⟨inner :: rest, name, by simp [Path.child]⟩

/-- What the search for default items looks at does not lead out of the folder. -/
def Enclosed (around : Surroundings) (here there : Path) : Prop :=
  ∀ names : List String, (∀ name ∈ names, Legal name) → Mirrors.Entered entersFolder 0 names →
    around.Inside here there (Path.trail names) ∧
      ∀ name, Legal name → around.Inside here there (Path.trail (names ++ [name]))

namespace Moves

/-- A walk that may go as deep as it likes is not cut short in either place. -/
theorem walk_moved (moves : Moves around other here there) (enclosed : around.Enclosed here there) :
    other.walk entersFolder there = (around.walk entersFolder here).map (Path.moved here there) := by
  have lies {names : List String} (inside : around.Inside here there (Path.trail names)) :
      Mirrors.Lies (moveText here there) (Known around here there) (Path.moved here there)
        ⟨here.anchor, here.parts ++ names⟩ := by
    unfold Mirrors.Lies
    rw [Path.moved_append, moves.source.toString_append, moves.goal.toString_append, moveText_append]
    exact ⟨⟨_, rfl, inside⟩, rfl⟩
  have walkable : Mirrors.Walkable (moveText here there) (Known around here there) Legal (Path.moved here there)
      entersFolder 0 here := by
    intro names legal entered
    obtain ⟨inside, further⟩ := enclosed names legal entered
    rw [foldl_child]
    refine ⟨lies inside, fun name legal => ?_⟩
    unfold Path.child
    rw [List.append_assoc, Path.moved_append, Path.moved_append, List.append_assoc]
    exact ⟨lies (further name legal), rfl⟩
  have start : Path.moved here there here = there := by
    have whole := Path.moved_append here there []
    rwa [List.append_nil, List.append_nil] at whole
  obtain ⟨fuel, enough, alsoEnough⟩ : ∃ fuel, around.tree.entries.length < fuel ∧
      other.tree.entries.length < fuel :=
    ⟨max around.tree.entries.length other.tree.entries.length + 1, by omega, by omega⟩
  have deep : around.walk entersFolder here = around.filesBelow entersFolder fuel 0 here :=
    moves.source.filesBelow_eq entersFolder 0 (by omega) (by omega)
  have alsoDeep : other.walk entersFolder there = other.filesBelow entersFolder fuel 0 there :=
    moves.goal.filesBelow_eq entersFolder 0 (by omega) (by omega)
  have same := moves.mirrors.filesBelow walkable moves.source.absolute (start ▸ moves.goal.absolute) fuel
  rwa [start, ← deep, ← alsoDeep] at same

theorem defaultItems_moved (moves : Moves around other here there) (enclosed : around.Enclosed here there) :
    Moved here there (around.defaultItems here) (other.defaultItems there) := by
  have lies (path : Path) (member : path ∈ around.walk entersFolder here) :
      here.Within path ∧ (Path.moved here there path).name = path.name := by
    obtain ⟨rest, name, rfl⟩ := eq_of_mem_filesBelow member
    rw [List.append_assoc, Path.moved_append]
    exact ⟨Path.within_iff.mpr ⟨_, rfl⟩, by simp [Path.name]⟩
  constructor
  · unfold defaultItems
    rw [moves.walk_moved enclosed, List.filter_map]
    refine congrArg _ (List.filter_congr fun path member => ?_)
    rw [Function.comp_apply, (lies path member).2]
  · exact fun path member => (lies path (List.mem_of_mem_filter member)).1

end Moves

end Surroundings
end UsingCensus
