import UsingCensus.Proofs.ProperPaths

namespace UsingCensus

namespace FileTree

def names (tree : FileTree) : List String :=
  tree.entries.map fun entry => entry.1.getLast?.getD ""

theorem mem_names {tree : FileTree} {here : Location} {name : String} {entry : Entry}
    (found : tree.entry? (here ++ [name]) = some entry) : name ∈ tree.names := by
  unfold entry? at found
  rw [if_neg (by simp)] at found
  obtain ⟨old, standing, _⟩ := Option.map_eq_some_iff.mp found
  have same : old.1 = here ++ [name] := by simpa using List.find?_some standing
  exact List.mem_map.mpr ⟨old, List.mem_of_find?_eq_some standing, by simp [same]⟩

theorem entry?_ne_none_of_follow {tree : FileTree} {through : Bool} {links : Nat}
    {here there : Location} {rest : List String}
    (leads : tree.follow through links here rest = .ok there)
    (standing : tree.entry? there ≠ none) : tree.entry? here ≠ none := by
  intro missing
  cases rest with
  | nil =>
    rw [follow] at leads
    cases leads
    exact standing missing
  | cons name more =>
    rw [follow, missing] at leads
    cases leads

/-- Every step towards something that is there is a name of the tree, or it stays in place or leads up. -/
theorem mem_names_of_follow {tree : FileTree} {links : Nat} {here there : Location}
    {rest : List String} (leads : tree.follow true links here rest = .ok there)
    (standing : tree.entry? there ≠ none) :
    ∀ name ∈ rest, name ≠ "." → name ≠ ".." → name ∈ tree.names := by
  fun_induction follow tree true links here rest with
  | case1 => simp
  | case2 | case3 | case4 | case5 | case9 => cases leads
  | case6 links here more _ _ ih =>
    intro name member named _
    rcases List.mem_cons.mp member with same | later
    · exact absurd same named
    · exact ih leads name later named ‹_›
  | case7 links here more _ _ _ ih =>
    intro name member named down
    rcases List.mem_cons.mp member with same | later
    · exact absurd same down
    · exact ih leads name later named down
  | case8 links here name more _ _ _ _ next target _ last => cases last.2
  | case10 here first more _ _ _ _ next target found _ fewer ih =>
    intro name member named down
    rcases List.mem_cons.mp member with same | later
    · exact same ▸ mem_names found
    · exact ih leads name (List.mem_append_right _ later) named down
  | case11 links here first more _ _ _ _ next _ ih =>
    intro name member named down
    rcases List.mem_cons.mp member with same | later
    · obtain ⟨entry, found⟩ := Option.ne_none_iff_exists'.mp (entry?_ne_none_of_follow leads standing)
      exact same ▸ mem_names found
    · exact ih leads name later named down

/-! ### Directories without links -/

/-- A name that can stand in a directory. -/
def Legal (name : String) : Prop :=
  Path.isPart name = true ∧ '/' ∉ name.toList ∧ name ≠ ".." ∧ (Text.Utf8.ofString name).length ≤ nameLimit

theorem follow_down {tree : FileTree} {through : Bool} {links : Nat} {here : Location}
    {names rest : List String} (legal : ∀ name ∈ names, Legal name)
    (standing : ∀ place, place <+: names → tree.entry? (here ++ place) = some .directory) :
    tree.follow through links here (names ++ rest) = tree.follow through links (here ++ names) rest := by
  induction names generalizing here with
  | nil => simp
  | cons name more ih =>
    obtain ⟨isPart, _, down, short⟩ := legal name List.mem_cons_self
    have first : tree.entry? here = some .directory := by
      simpa using standing [] List.nil_prefix
    have next : tree.entry? (here ++ [name]) = some .directory := standing [name] (by simp)
    have named := (Path.isPart_iff.mp isPart).2
    have further : ∀ place, place <+: more → tree.entry? (here ++ [name] ++ place) = some .directory := by
      intro place prefixed
      have below := standing (name :: place) (List.cons_prefix_cons.mpr ⟨rfl, prefixed⟩)
      simpa using below
    have later := ih (fun other member => legal other (List.mem_cons_of_mem _ member)) further
    rw [List.cons_append, follow]
    simp only [first, if_neg (Nat.not_lt.mpr short), if_neg named, if_neg down]
    split
    · rename_i link
      rw [next] at link
      cases link
    · simpa using later

theorem follow_stay {tree : FileTree} {through : Bool} {links : Nat} {here there : Location}
    (leads : tree.follow through links here ["."] = .ok there) :
    there = here ∧ tree.entry? here = some .directory := by
  have short : ¬ (Text.Utf8.ofString ".").length > nameLimit := by decide
  rw [follow] at leads
  split at leads
  · cases leads
  · cases leads
  · cases leads
  · rename_i standing
    rw [if_neg short, if_pos rfl, follow] at leads
    cases leads
    exact ⟨rfl, standing⟩

theorem follow_up {tree : FileTree} {through : Bool} {links : Nat} {here : Location}
    (standing : ∀ place, place <+: here → tree.entry? place = some .directory) (ups : Nat)
    (rest : List String) :
    tree.follow through links here (List.replicate ups ".." ++ rest) =
      tree.follow through links (here.take (here.length - ups)) rest := by
  induction ups generalizing here with
  | zero => simp
  | succ fewer ih =>
    have first := standing here List.prefix_rfl
    have short : ¬ (Text.Utf8.ofString "..").length > nameLimit := by decide
    have above : ∀ place, place <+: here.dropLast → tree.entry? place = some .directory :=
      fun place prefixed => standing place (prefixed.trans (List.dropLast_prefix here))
    have later := ih above
    rw [List.replicate_succ, List.cons_append, follow]
    simp only [first, if_neg short, if_neg (show ".." ≠ "." by decide), if_true]
    rw [later, List.dropLast_eq_take, List.take_take, List.length_take]
    congr 2
    omega

/-! ### Locations in directories -/

section Lies

variable {tree : FileTree} {here there : Location} {links : Nat} {rest : List String} {through : Bool}

/-- The location lies in directories, none of which is a link. -/
def Lies (tree : FileTree) (location : Location) : Prop :=
  ∀ place, place <+: location → place ≠ location → tree.entry? place = some .directory

theorem Lies.dropLast (lies : tree.Lies here) : tree.Lies here.dropLast := by
  intro place prefixed different
  refine lies place (prefixed.trans (List.dropLast_prefix here)) fun whole => different ?_
  subst whole
  exact prefixed.eq_of_length_le (by simp)

theorem Lies.child (lies : tree.Lies here) (directory : tree.entry? here = some .directory) (name : String) :
    tree.Lies (here ++ [name]) := by
  intro place prefixed different
  rcases List.prefix_concat_iff.mp prefixed with whole | above
  · exact absurd whole different
  · by_cases same : place = here
    · exact same ▸ directory
    · exact lies place above same

theorem Lies.startOf (lies : tree.Lies here) (text : String) : tree.Lies (startOf text here) := by
  unfold FileTree.startOf
  split
  · exact fun place prefixed different => absurd (List.prefix_nil.mp prefixed) different
  · exact lies

theorem lies_of_follow (lies : tree.Lies here)
    (leads : tree.follow through links here rest = .ok there) : tree.Lies there := by
  fun_induction follow tree through links here rest with
  | case1 =>
    cases leads
    exact lies
  | case2 | case3 | case4 | case5 | case9 => cases leads
  | case6 links here more _ _ ih => exact ih lies leads
  | case7 links here more _ _ _ ih => exact ih lies.dropLast leads
  | case8 links here name more directory =>
    rw [← Except.ok.inj leads]
    exact lies.child directory name
  | case10 links name more _ _ _ _ next target _ _ fewer ih =>
    exact ih (lies.startOf target) leads
  | case11 links here name more directory _ _ _ next _ ih => exact ih (lies.child directory name) leads

theorem not_link_of_follow (lies : tree.Lies here) (plain : ∀ target, tree.entry? here ≠ some (.link target))
    (leads : tree.follow true links here rest = .ok there) (target : String) :
    tree.entry? there ≠ some (.link target) := by
  fun_induction follow tree true links here rest with
  | case1 =>
    cases leads
    exact plain target
  | case2 | case3 | case4 | case5 | case9 => cases leads
  | case6 links here more _ _ ih => exact ih lies plain leads
  | case7 links here more standing _ _ ih =>
    refine ih lies.dropLast (fun other linked => ?_) leads
    by_cases top : here = []
    · subst top
      cases linked
    · have shorter : here.dropLast ≠ here := fun same => by
        have sizes := congrArg List.length same
        rw [List.length_dropLast] at sizes
        have filled := List.length_pos_iff.mpr top
        omega
      rw [lies _ (List.dropLast_prefix here) shorter] at linked
      cases linked
  | case8 links here name more _ _ _ _ next target _ last => cases last.2
  | case10 links name more standing _ _ _ next target _ _ fewer ih =>
    refine ih (lies.startOf target) (fun other linked => ?_) leads
    unfold startOf at linked
    split at linked
    · cases linked
    · rw [standing] at linked
      cases linked
  | case11 links here name more standing _ _ _ next noLink ih =>
    exact ih (lies.child standing name) noLink leads

end Lies

end FileTree

namespace Surroundings

open FileTree

/-- The working directory stands, and no link leads to it. -/
structure Settled (around : Surroundings) : Prop where
  legal : ∀ name ∈ around.directory, Legal name
  standing : ∀ place, place <+: around.directory → around.tree.entry? place = some .directory

theorem Settled.lies {around : Surroundings} (settled : around.Settled) (text : String) :
    around.tree.Lies (startOf text around.directory) :=
  Lies.startOf (fun place prefixed _ => settled.standing place prefixed) text

theorem Settled.start {around : Surroundings} (settled : around.Settled) (text : String) :
    around.tree.entry? (startOf text around.directory) = some .directory := by
  unfold startOf
  split
  · rfl
  · exact settled.standing _ List.prefix_rfl

theorem settled_of_directory {around : Surroundings} {name : String} (at_ : around.directory = [name])
    (legal : Legal name) (standing : around.tree.entry? [name] = some .directory) : around.Settled where
  legal := by
    intro other member
    rw [at_] at member
    exact List.mem_singleton.mp member ▸ legal
  standing := by
    intro place prefixed
    rw [at_] at prefixed
    rcases List.prefix_cons_iff.mp prefixed with rfl | ⟨rest, rfl, below⟩
    · rfl
    · rw [List.prefix_nil.mp below]
      exact standing

def origin (around : Surroundings) (path : Path) : Location :=
  if path.isAbsolute then [] else around.directory

theorem startOf_toString (around : Surroundings) {path : Path} (proper : path.Proper) :
    startOf path.toString around.directory = around.origin path := by
  unfold startOf origin
  rw [proper.startsIn]

theorem toString_ne_empty {path : Path} (proper : path.Proper) : path.toString ≠ "" := by
  intro empty
  by_cases named : path.parts = []
  · obtain ⟨anchor, parts⟩ := path
    cases named
    cases anchor <;> revert empty <;> decide
  · have steps := proper.steps named
    rw [empty] at steps
    exact named steps.symm

theorem steps_of_bare {path : Path} (bare : path.parts = []) : steps path.toString = ["."] := by
  obtain ⟨anchor, parts⟩ := path
  cases bare
  cases anchor <;> decide

theorem seek_eq_ok_iff {around : Surroundings} {through : Bool} {text : String} {location : Location} :
    around.seek through text = .ok location ↔
      text ≠ "" ∧ (Text.Utf8.ofString text).length ≤ pathLimit ∧
        around.tree.follow through linkLimit (startOf text around.directory) (steps text) = .ok location := by
  unfold seek
  by_cases empty : text = ""
  · simp [empty]
  by_cases long : (Text.Utf8.ofString text).length > pathLimit
  · simp [empty, long, Nat.not_le.mpr long]
  · simp [empty, long, Nat.le_of_not_lt long]

theorem seek_toString_eq_ok_iff {around : Surroundings} {through : Bool} {path : Path} {location : Location}
    (proper : path.Proper) : around.seek through path.toString = .ok location ↔
      (Text.Utf8.ofString path.toString).length ≤ pathLimit ∧
        around.tree.follow through linkLimit (around.origin path) (steps path.toString) = .ok location := by
  rw [seek_eq_ok_iff, around.startOf_toString proper]
  exact and_iff_right (toString_ne_empty proper)

theorem follow_of_find {around : Surroundings} {path : Path} (proper : path.Proper) {entry : Entry}
    (found : around.find true path.toString = .ok entry) :
    '\x00' ∉ path.toString.toList ∧ (Text.Utf8.ofString path.toString).length ≤ pathLimit ∧
      ∃ location,
        around.tree.follow true linkLimit (around.origin path) (steps path.toString) = .ok location ∧
        around.tree.entry? location = some entry := by
  unfold find at found
  split at found
  · cases found
  rename_i readable
  split at found
  · cases found
  rename_i location leads
  obtain ⟨short, walked⟩ := (seek_toString_eq_ok_iff proper).mp leads
  refine ⟨by simpa using readable, short, location, walked, ?_⟩
  split at found
  · rename_i standing
    cases found
    exact standing
  · cases found

theorem find_eq_file_iff (around : Surroundings) {path : Path} (proper : path.Proper)
    {bytes : List UInt8} :
    around.find true path.toString = .ok (.file bytes) ↔
      '\x00' ∉ path.toString.toList ∧ (Text.Utf8.ofString path.toString).length ≤ pathLimit ∧
      path.parts ≠ [] ∧
      ∃ location, around.tree.follow true linkLimit (around.origin path) path.parts = .ok location ∧
        around.tree.entry? location = some (.file bytes) := by
  constructor
  · intro found
    obtain ⟨null, short, location, leads, standing⟩ := follow_of_find proper found
    have named : path.parts ≠ [] := by
      intro bare
      rw [steps_of_bare bare] at leads
      obtain ⟨rfl, directory⟩ := follow_stay leads
      rw [directory] at standing
      cases standing
    rw [proper.steps named] at leads
    exact ⟨null, short, named, location, leads, standing⟩
  · rintro ⟨null, short, named, location, leads, standing⟩
    have sought : around.seek true path.toString = .ok location :=
      (seek_toString_eq_ok_iff proper).mpr ⟨short, by rwa [proper.steps named]⟩
    unfold find
    rw [if_neg (by simpa using null), sought]
    simp only [standing]

/-- The parts of the absolute form of a normal relative path: ways up lead up from the working directory. -/
theorem projectKey_parts {around : Surroundings} (settled : around.Settled) {ups : Nat}
    {names : List String} (down : ".." ∉ names) :
    Path.normalParts true (around.directory ++ (List.replicate ups ".." ++ names)) =
      around.directory.take (around.directory.length - ups) ++ names := by
  have named : ".." ∉ around.directory := fun member => (settled.legal _ member).2.2.1 rfl
  unfold Path.normalParts
  rw [List.foldl_append, List.foldl_append, Path.foldl_pushPart_names named,
    Path.foldl_pushPart_ups (by simpa using named), Path.foldl_pushPart_names down]
  simp [List.reverse_drop]

theorem follow_absolute {around : Surroundings} (settled : around.Settled) {links ups : Nat}
    {names : List String} :
    around.tree.follow true links around.directory (List.replicate ups ".." ++ names) =
      around.tree.follow true links []
        (around.directory.take (around.directory.length - ups) ++ names) := by
  have walked : around.tree.follow true links []
      (around.directory.take (around.directory.length - ups) ++ names) =
        around.tree.follow true links ([] ++ around.directory.take (around.directory.length - ups)) names :=
    follow_down (fun name member => settled.legal name (List.mem_of_mem_take member))
      fun place prefixed => settled.standing place (prefixed.trans (List.take_prefix _ _))
  rw [follow_up settled.standing, walked, List.nil_append]

end Surroundings
end UsingCensus
