import Mathlib.Data.List.Flatten
import Mathlib.Data.List.Nodup
import Mathlib.Data.List.Perm.Subperm
import UsingCensus.Proofs.Growing
import UsingCensus.Proofs.Targets
import UsingCensus.Workspace.Loading

namespace UsingCensus

theorem sortNames_sublist {part names : List String} (within : part.Subperm names) :
    (sortNames part).Sublist (sortNames names) := by
  obtain ⟨kept, same, sublist⟩ :=
    (sortNames_perm part).subperm.trans (within.trans (sortNames_perm names).symm.subperm)
  have sorted := (pairwise_sortNames names).sublist sublist
  have equal := same.eq_of_pairwise (fun a b _ _ below above => String.le_antisymm below above) sorted
    (pairwise_sortNames part)
  exact equal ▸ sublist

theorem subperm_flatMap {α β : Type} {part whole : List α} {f g : α → List β} (within : part.Subperm whole)
    (each : ∀ a, (f a).Subperm (g a)) : (part.flatMap f).Subperm (whole.flatMap g) := by
  have pointwise : (part.flatMap f).Subperm (part.flatMap g) := by
    induction part with
    | nil => exact List.Subperm.refl _
    | cons a rest ih =>
      rw [List.flatMap_cons, List.flatMap_cons]
      exact (each a).append (ih ((List.sublist_cons_self a rest).subperm.trans within))
  obtain ⟨kept, same, sublist⟩ := within
  exact pointwise.trans ((same.flatMap_right g).symm.subperm.trans (sublist.flatMap g).subperm)

/-- What is found first both before and after something is put between is found first between as well. -/
theorem find?_between {α : Type} {p : α → Bool} {first middle last : List α} (early : first.Sublist middle)
    (late : middle.Sublist last) (once : last.Nodup) (same : last.find? p = first.find? p) :
    middle.find? p = first.find? p := by
  cases found : first.find? p with
  | none =>
    rw [found, List.find?_eq_none] at same
    exact List.find?_eq_none.mpr fun a member => same a (late.subset member)
  | some a =>
    rw [found] at same
    obtain ⟨meets, before, after, rfl, misses⟩ := List.find?_eq_some_iff_append.mp same
    obtain ⟨front, back, rfl, inFront, inBack⟩ := List.sublist_append_iff.mp late
    have unmet : front.find? p = none := List.find?_eq_none.mpr fun b member => by
      simpa using misses b (inFront.subset member)
    have member : a ∈ front ++ back := early.subset (List.mem_of_find?_eq_some found)
    rw [List.find?_append, unmet, Option.none_or]
    rcases List.sublist_cons_iff.mp inBack with later | ⟨rest, rfl, _⟩
    · refine absurd member fun member => ?_
      have apart := (List.nodup_cons.mp (List.nodup_append.mp once).2.1).1
      rcases List.mem_append.mp member with one | two
      · exact List.find?_eq_none.mp unmet a one meets
      · exact apart (later.subset two)
    · rw [List.find?_cons_of_pos meets]

theorem findSome?_between {α β : Type} {p : β → α → Bool} {first middle last : List α} {choices : List β}
    (early : first.Sublist middle) (late : middle.Sublist last) (once : last.Nodup)
    (same : (choices.findSome? fun choice => last.find? (p choice)) =
      choices.findSome? fun choice => first.find? (p choice)) :
    (choices.findSome? fun choice => middle.find? (p choice)) =
      choices.findSome? fun choice => first.find? (p choice) := by
  induction choices with
  | nil => rfl
  | cons choice rest ih =>
    rw [List.findSome?_cons, List.findSome?_cons] at same ⊢
    cases found : first.find? (p choice) with
    | some a =>
      have there : (last.find? (p choice)).isSome := by
        rw [List.find?_isSome]
        exact ⟨a, late.subset (early.subset (List.mem_of_find?_eq_some found)), List.find?_some found⟩
      obtain ⟨b, there⟩ := Option.isSome_iff_exists.mp there
      rw [there, found] at same
      have kept : middle.find? (p choice) = first.find? (p choice) :=
        find?_between early late once (by rw [there, found]; exact same)
      rw [kept, found]
    | none =>
      rw [found] at same
      cases there : last.find? (p choice) with
      | some b =>
        -- what is found last would be one of the first, and so would have been found there
        rw [there] at same
        obtain ⟨other, _, found'⟩ := List.exists_of_findSome?_eq_some same.symm
        exact absurd (List.find?_some there) (List.find?_eq_none.mp found b (List.mem_of_find?_eq_some found'))
      | none =>
        rw [there] at same
        have none : middle.find? (p choice) = none := by
          rw [List.find?_eq_none] at there ⊢
          exact fun a member => there a (late.subset member)
        rw [none]
        exact ih same

namespace FileTree

section Unlinking

variable {tree : FileTree} {budget : Nat} {entered : List Location} {here : Location} {name target : String}
  {rest : List String}

theorem unlink_plain (named : name ≠ "." ∧ name ≠ "..")
    (plain : ∀ target, tree.entry? (here ++ [name]) ≠ some (.link target)) :
    tree.unlink budget entered here (name :: rest) = tree.unlink budget entered (here ++ [name]) rest := by
  rw [unlink, if_neg named.1, if_neg named.2]
  dsimp only
  split
  · rename_i target found
    exact absurd found (plain target)
  · rfl

theorem unlink_circle (named : name ≠ "." ∧ name ≠ "..")
    (found : tree.entry? (here ++ [name]) = some (.link target)) (circle : here ++ [name] ∈ entered) :
    tree.unlink budget entered here (name :: rest) = .error (here ++ [name] ++ rest) := by
  rw [unlink, if_neg named.1, if_neg named.2]
  dsimp only
  split
  · rw [if_pos circle]
  · rename_i plain
    exact absurd found (plain target)

theorem unlink_link (named : name ≠ "." ∧ name ≠ "..")
    (found : tree.entry? (here ++ [name]) = some (.link target)) (new : here ++ [name] ∉ entered) :
    tree.unlink (budget + 1) entered here (name :: rest) =
      match tree.unlink budget ((here ++ [name]) :: entered) (startOf target here) (steps target) with
      | .error parts => .error (parts ++ rest)
      | .ok there => tree.unlink (budget + 1) entered there rest := by
  rw [unlink, if_neg named.1, if_neg named.2]
  dsimp only
  split
  · rename_i also
    obtain rfl := Entry.link.inj (Option.some.inj (also.symm.trans found))
    exact if_neg new
  · rename_i plain
    exact absurd found (plain target)

/-- As long as no link is being replaced twice, fewer links are than there are entries. -/
theorem length_entered_lt (links : ∀ place ∈ entered, ∃ target, tree.entry? place = some (.link target))
    (once : entered.Nodup) (found : tree.entry? here = some (.link target)) (new : here ∉ entered) :
    entered.length < tree.entries.length := by
  have listed : here :: entered ⊆ tree.entries.map Prod.fst := by
    intro place member
    have linked : ∃ target, tree.entry? place = some (.link target) := by
      rcases List.mem_cons.mp member with rfl | old
      · exact ⟨target, found⟩
      · exact links place old
    obtain ⟨target, linked⟩ := linked
    have below : place ≠ [] := ne_nil_of_not_directory tree (by rw [linked]; simp)
    exact (entry?_ne_none_iff below).mp (by rw [linked]; exact Option.some_ne_none _)
  have bounded := (List.nodup_cons.mpr ⟨new, once⟩).length_le_of_subset listed
  rw [List.length_cons, List.length_map] at bounded
  exact bounded

end Unlinking

namespace Grown

variable {grown : Location → Prop} {tree other : FileTree}

theorem entry?_ne_none (grows : Grown grown tree other) {location : Location}
    (stands : tree.entry? location ≠ none) : other.entry? location ≠ none := by
  rcases grows.entry?_cases location with same | ⟨missing, _⟩ | ⟨_, new, _, after⟩
  · rwa [same]
  · exact absurd missing stands
  · rw [after]
    exact Option.some_ne_none _

/-- Nothing is lost. An entry for the root says nothing, so it is kept track of apart. -/
theorem length_entries_le (grows : Grown grown tree other)
    (root : [] ∈ tree.entries.map Prod.fst → [] ∈ other.entries.map Prod.fst) :
    tree.entries.length ≤ other.entries.length := by
  have listed : tree.entries.map Prod.fst ⊆ other.entries.map Prod.fst := by
    intro location member
    by_cases top : location = []
    · exact top ▸ root (top ▸ member)
    · exact (entry?_ne_none_iff top).mp (grows.entry?_ne_none ((entry?_ne_none_iff top).mpr member))
  simpa using tree.nodup.length_le_of_subset listed

theorem children_subperm (grows : Grown grown tree other) (directory : Location) :
    (tree.children directory).Subperm (other.children directory) := by
  refine List.subperm_of_subset (nodup_children tree directory) fun name listed => ?_
  exact mem_children_iff.mpr (grows.entry?_ne_none (mem_children_iff.mp listed))

theorem exists_budget (grows : Grown grown tree other) {more : Nat} {entered : List Location} {next : Location}
    {target : String} (links : ∀ place ∈ entered, ∃ target, tree.entry? place = some (.link target))
    (once : entered.Nodup) (found : other.entry? next = some (.link target)) (new : next ∉ entered)
    (enough : other.entries.length ≤ more + entered.length) : ∃ less, more = less + 1 := by
  have room := length_entered_lt (fun place member => (links place member).imp fun _ => grows.link_iff.mpr)
    once found new
  exact ⟨more - 1, by omega⟩

/-- Links are replaced by the same, as long as there is budget for all of them in both. -/
theorem unlink_eq (grows : Grown grown tree other) {budget more : Nat} {entered : List Location}
    {here : Location} {rest : List String}
    (links : ∀ place ∈ entered, ∃ target, tree.entry? place = some (.link target)) (once : entered.Nodup)
    (enough : tree.entries.length ≤ budget + entered.length)
    (also : other.entries.length ≤ more + entered.length) :
    other.unlink more entered here rest = tree.unlink budget entered here rest := by
  -- the links that are being replaced are links of the tree, each met once, so the budget is never used up
  fun_induction unlink tree budget entered here rest generalizing more with
  | case1 => rw [unlink]
  | case2 budget entered here rest =>
    rename_i ih
    rw [unlink, if_pos rfl]
    exact ih links once enough also
  | case3 budget entered here rest dot =>
    rename_i ih
    rw [unlink, if_neg dot, if_pos rfl]
    exact ih links once enough also
  | case4 budget entered here name rest dot dots next target found =>
    rename_i circle
    exact unlink_circle ⟨dot, dots⟩ (grows.link_iff.mpr found) circle
  | case5 entered here name rest dot dots next target found =>
    rename_i new
    have room := length_entered_lt links once found new
    omega
  | case6 entered here name rest dot dots next target found new fewer parts =>
    rename_i circle ih
    have link : other.entry? next = some (.link target) := grows.link_iff.mpr found
    obtain ⟨less, rfl⟩ := grows.exists_budget links once link new also
    have inner := @ih less (List.forall_mem_cons.mpr ⟨⟨target, found⟩, links⟩)
      (List.nodup_cons.mpr ⟨new, once⟩) (by simp only [List.length_cons]; omega)
      (by simp only [List.length_cons]; omega)
    rw [unlink_link ⟨dot, dots⟩ link new, inner, circle]
  | case7 entered here name rest dot dots next target found new fewer there =>
    rename_i replaced inner later
    have link : other.entry? next = some (.link target) := grows.link_iff.mpr found
    obtain ⟨less, rfl⟩ := grows.exists_budget links once link new also
    rw [unlink_link ⟨dot, dots⟩ link new, inner (List.forall_mem_cons.mpr ⟨⟨target, found⟩, links⟩)
      (List.nodup_cons.mpr ⟨new, once⟩) (by simp only [List.length_cons]; omega)
      (by simp only [List.length_cons]; omega), replaced]
    exact later links once enough also
  | case8 budget entered here name rest dot dots next =>
    rename_i plain ih
    rw [unlink_plain ⟨dot, dots⟩ fun target => mt grows.link_iff.mp (plain target)]
    exact ih links once enough also

end Grown
end FileTree

namespace Surroundings

open Wildcard

variable {around other : Surroundings}

theorem nodup_namesOf (around : Surroundings) (text : String) : (around.namesOf text).Nodup := by
  rw [namesOf_eq]
  cases around.locate? true text with
  | none => exact List.nodup_nil
  | some location =>
    rw [Option.elim_some]
    split
    · exact FileTree.nodup_children around.tree location
    · exact List.nodup_nil

theorem exists_parts_of_mem_filesBelow {enter : Nat → String → Bool} {fuel depth : Nat} {directory path : Path}
    (member : path ∈ around.filesBelow enter fuel depth directory) :
    ∃ name rest, path.parts = directory.parts ++ name :: rest := by
  induction fuel generalizing depth directory with
  | zero => cases member
  | succ fewer ih =>
    rw [filesBelow, List.mem_append] at member
    rcases member with here | below
    · obtain ⟨name, _, rfl⟩ := List.mem_map.mp here
      exact ⟨name, [], rfl⟩
    · obtain ⟨name, _, found⟩ := List.mem_flatMap.mp below
      obtain ⟨next, rest, same⟩ := ih found
      exact ⟨name, next :: rest, by rw [same]; simp [Path.child]⟩

theorem nodup_filesBelow (around : Surroundings) (enter : Nat → String → Bool) (fuel depth : Nat)
    (directory : Path) : (around.filesBelow enter fuel depth directory).Nodup := by
  induction fuel generalizing depth directory with
  | zero => exact List.nodup_nil
  | succ fewer ih =>
    have names : (sortNames (around.namesOf (directory.spelled depth))).Nodup :=
      (sortNames_perm _).nodup_iff.mpr (nodup_namesOf around _)
    rw [filesBelow, List.nodup_append]
    refine ⟨(names.filter _).map fun name other same => ?_, List.nodup_flatMap.mpr ⟨fun name _ => ih _ _, ?_⟩,
      ?_⟩
    · simpa [Path.child] using same
    · refine (names.filter _).imp fun {name other} different path one two => ?_
      obtain ⟨_, _, first⟩ := exists_parts_of_mem_filesBelow one
      obtain ⟨_, _, second⟩ := exists_parts_of_mem_filesBelow two
      refine different ?_
      have same := first.symm.trans second
      simp only [Path.child, List.append_assoc, List.append_cancel_left_eq] at same
      exact (List.cons.inj same).1
    · rintro path here _ below rfl
      obtain ⟨name, _, rfl⟩ := List.mem_map.mp here
      obtain ⟨folder, _, found⟩ := List.mem_flatMap.mp below
      obtain ⟨_, _, same⟩ := exists_parts_of_mem_filesBelow found
      have lengths := congrArg List.length same
      simp [Path.child] at lengths

namespace Grown

variable {grown : Location → Prop}

/-! ### Kinds -/

theorem locate?_of_locate? (grows : Grown grown around other) {through : Bool} {text : String}
    {location : Location} (found : around.locate? through text = some location) :
    other.locate? through text = some location := by
  have leads := grows.seek_of_seek (seek_of_locate? found)
  unfold locate? at found ⊢
  split at found
  · cases found
  · rename_i plain
    have stands := (Option.filter_eq_some_iff.mp found).2
    rw [if_neg plain, leads]
    refine Option.filter_eq_some_iff.mpr ⟨rfl, ?_⟩
    rw [Option.isSome_iff_ne_none] at stands ⊢
    exact grows.tree.entry?_ne_none stands

theorem kind?_of_kind? (grows : Grown grown around other) {through : Bool} {text : String} {kind : EntryKind}
    (stood : around.kind? through text = some kind) : other.kind? through text = some kind := by
  obtain ⟨plain, location, entry, leads, stands, same⟩ := kind?_eq_some_iff.mp stood
  refine kind?_eq_some_iff.mpr ⟨plain, location, ?_⟩
  rcases grows.tree.entry?_cases location with kept | ⟨missing, _⟩ | ⟨old, new, before, after⟩
  · exact ⟨entry, grows.seek_of_seek leads, kept.trans stands, same⟩
  · rw [missing] at stands
    cases stands
  · cases before.symm.trans stands
    exact ⟨.file new, grows.seek_of_seek leads, after, same⟩

theorem kind?_iff (grows : Grown grown around other) {through : Bool} {text : String} {kind : EntryKind}
    (noFile : kind ≠ .file) : other.kind? through text = some kind ↔ around.kind? through text = some kind := by
  refine ⟨fun stands => ?_, grows.kind?_of_kind?⟩
  obtain ⟨plain, location, entry, leads, stands, same⟩ := kind?_eq_some_iff.mp stands
  have led : around.seek through text = .ok location := by
    rcases grows.seek_cases through text with kept | ⟨_, nowhere⟩
    · rw [← kept, leads]
    · cases leads.symm.trans nowhere
  exact kind?_eq_some_iff.mpr ⟨plain, location, entry, led, (grows.tree.entry?_eq_iff (same ▸ noFile)).mp stands, same⟩

theorem isDirectory_eq (grows : Grown grown around other) (text : String) :
    other.isDirectory text = around.isDirectory text := by
  rw [Surroundings.isDirectory_eq, Surroundings.isDirectory_eq]
  exact decide_eq_decide.mpr (grows.kind?_iff (by decide))

theorem isLink_eq (grows : Grown grown around other) (text : String) : other.isLink text = around.isLink text := by
  rw [Surroundings.isLink_eq, Surroundings.isLink_eq]
  exact decide_eq_decide.mpr (grows.kind?_iff (by decide))

theorem holdsDirectory_eq (grows : Grown grown around other) (text name : String) :
    other.holdsDirectory text name = around.holdsDirectory text name := by
  unfold holdsDirectory
  rcases grows.seek_cases true text with same | ⟨blocked, nowhere⟩
  · rw [same]
    simp only [grows.tree.directory_iff]
  · rw [blocked, nowhere]

theorem isFile_of_isFile (grows : Grown grown around other) {text : String} (stood : around.isFile text = true) :
    other.isFile text = true := by
  rw [isFile_eq, decide_eq_true_iff] at stood ⊢
  exact grows.kind?_of_kind? stood

theorem hasEntry_of_hasEntry (grows : Grown grown around other) {text : String}
    (stood : around.hasEntry text = true) : other.hasEntry text = true := by
  rw [hasEntry_eq, Option.isSome_iff_exists] at stood ⊢
  exact stood.imp fun kind => grows.kind?_of_kind?

theorem namesOf_subperm (grows : Grown grown around other) (text : String) :
    (around.namesOf text).Subperm (other.namesOf text) := by
  rw [namesOf_eq, namesOf_eq]
  cases found : around.locate? true text with
  | none => exact List.nil_subperm
  | some location =>
    rw [grows.locate?_of_locate? found, Option.elim_some, Option.elim_some]
    by_cases directory : around.tree.entry? location = some .directory
    · rw [if_pos directory, if_pos (grows.tree.directory_iff.mpr directory)]
      exact grows.tree.children_subperm location
    · rw [if_neg directory]
      exact List.nil_subperm

/-! ### Canonical paths -/

theorem absolute_eq (grows : Grown grown around other) (path : Path) :
    other.absolute path = around.absolute path := by
  unfold absolute
  rw [grows.directory]

theorem projectKey_eq (grows : Grown grown around other) (path : Path) :
    other.projectKey path = around.projectKey path := by
  unfold projectKey
  rw [grows.absolute_eq]

theorem expandHome_eq (grows : Grown grown around other) (path : Path) :
    other.expandHome path = around.expandHome path := by
  unfold expandHome homeOf?
  rw [grows.home]

theorem find_eq_circle_iff (grows : Grown grown around other) (text : String) :
    (∃ path, other.find true text = .error (.refused .tooManyLinks path)) ↔
      ∃ path, around.find true text = .error (.refused .tooManyLinks path) := by
  unfold find
  split
  · exact Iff.rfl
  · rcases grows.seek_cases true text with same | ⟨nowhere, blocked⟩
    · rw [same]
      cases around.seek true text with
      | error cause => exact Iff.rfl
      | ok location =>
        rcases grows.tree.entry?_cases location with kept | ⟨missing, new, after⟩ | ⟨old, new, before, after⟩
        · simp only [kept]
        · simp [missing, after]
        · simp [before, after]
    · simp [nowhere, blocked]

theorem canonical_eq (grows : Grown grown around other) (path : Path) :
    other.canonical path = around.canonical path := by
  have unlinked : other.tree.unlink other.tree.entries.length [] [] (around.absolute path).parts =
      around.tree.unlink around.tree.entries.length [] [] (around.absolute path).parts :=
    grows.tree.unlink_eq (fun _ none => absurd none List.not_mem_nil) List.nodup_nil (Nat.le_refl _) (Nat.le_refl _)
  unfold canonical
  rw [grows.absolute_eq]
  dsimp only
  rw [unlinked]
  split
  · rfl
  · split
    · rfl
    · rename_i parts _
      have circles := grows.find_eq_circle_iff
        (Path.mk .root (Path.normalParts true (parts.filter Path.isPart))).toString
      split
      · rename_i one
        obtain ⟨_, also⟩ := circles.mp ⟨_, one⟩
        rw [also]
      · rename_i straight
        split
        · rename_i circle
          obtain ⟨path, also⟩ := circles.mpr ⟨_, circle⟩
          exact absurd also (straight path)
        · rfl

/-! ### Walks -/

theorem filesBelow_sublist (grows : Grown grown around other) (enter : Nat → String → Bool) {fuel more : Nat}
    (enough : fuel ≤ more) (depth : Nat) (directory : Path) :
    (around.filesBelow enter fuel depth directory).Sublist (other.filesBelow enter more depth directory) := by
  induction fuel generalizing more depth directory with
  | zero => exact List.nil_sublist _
  | succ fewer ih =>
    obtain ⟨less, rfl⟩ : ∃ less, more = less + 1 := ⟨more - 1, by omega⟩
    have names : (sortNames (around.namesOf (directory.spelled depth))).Sublist
        (sortNames (other.namesOf (directory.spelled depth))) := sortNames_sublist (grows.namesOf_subperm _)
    rw [filesBelow, filesBelow]
    simp only [leadsToDirectory, grows.isDirectory_eq, grows.holdsDirectory_eq, grows.isLink_eq]
    refine ((names.filter _).map directory.child).append ?_
    refine ((names.filter _).flatMap _).trans (List.Sublist.flatMap_right _ fun name _ => ?_)
    exact ih (by omega) (depth + 1) (directory.child name)

theorem walk_sublist (grows : Grown grown around other)
    (size : around.tree.entries.length ≤ other.tree.entries.length) (enter : Nat → String → Bool)
    (directory : Path) : (around.walk enter directory).Sublist (other.walk enter directory) :=
  grows.filesBelow_sublist enter (by omega) 0 directory

theorem defaultItems_sublist (grows : Grown grown around other)
    (size : around.tree.entries.length ≤ other.tree.entries.length) (directory : Path) :
    (around.defaultItems directory).Sublist (other.defaultItems directory) :=
  (grows.walk_sublist size ProjectFile.entersFolder directory).filter _

/-- A directory that stands for one file, whether or not anything is new, stands for it when some of that is. -/
theorem firstDescriptor?_between {middle last : Surroundings} {more : Location → Prop}
    (early : Grown grown around middle) (late : Grown more middle last)
    (small : around.tree.entries.length ≤ middle.tree.entries.length)
    (large : middle.tree.entries.length ≤ last.tree.entries.length) {directory : Path}
    (same : last.firstDescriptor? directory = around.firstDescriptor? directory) :
    middle.firstDescriptor? directory = around.firstDescriptor? directory :=
  findSome?_between (early.walk_sublist small _ directory) (late.walk_sublist large _ directory)
    (nodup_filesBelow last _ _ 0 directory) same

/-! ### Patterns -/

theorem namesAt_subperm (grows : Grown grown around other) (foldersOnly : Bool) (directory : String) :
    (around.namesAt foldersOnly directory).Subperm (other.namesAt foldersOnly directory) := by
  rw [namesAt_eq, namesAt_eq]
  simp only [grows.isDirectory_eq]
  exact (grows.namesOf_subperm _).filter _

theorem descend_subperm (grows : Grown grown around other) (foldersOnly : Bool) (fuel : Nat)
    (directory : String) :
    (around.descend foldersOnly fuel directory).Subperm (other.descend foldersOnly fuel directory) := by
  induction fuel generalizing directory with
  | zero => exact List.nil_subperm
  | succ fewer ih =>
    rw [descend, descend]
    refine subperm_flatMap ((grows.namesAt_subperm foldersOnly directory).filter _) fun name => ?_
    obtain ⟨kept, same, within⟩ := ih (below directory name)
    exact (List.subperm_cons _).mpr ⟨kept.map _, same.map _, within.map _⟩

theorem findPart_subperm (grows : Grown grown around other) (foldersOnly : Bool) (directory part : String) :
    (around.findPart foldersOnly directory part).Subperm (other.findPart foldersOnly directory part) := by
  unfold findPart
  split
  · exact (List.subperm_cons _).mpr (grows.descend_subperm foldersOnly _ directory)
  · split
    · exact (grows.namesAt_subperm foldersOnly directory).filter _
    · split
      · rw [grows.isDirectory_eq]
      · split
        · rename_i stood
          rw [if_pos (grows.hasEntry_of_hasEntry stood)]
        · exact List.nil_subperm

theorem findParts_subperm (grows : Grown grown around other) (directory : String) (parts : List String) :
    (around.findParts directory parts).Subperm (other.findParts directory parts) := by
  induction parts generalizing directory with
  | nil => exact List.Subperm.refl _
  | cons part rest ih =>
    rw [findParts, findParts]
    exact subperm_flatMap (grows.findPart_subperm _ directory part) fun name => ih (below directory name)

theorem expand_sublist (grows : Grown grown around other) (pattern : String) :
    (around.expand pattern).Sublist (other.expand pattern) :=
  sortNames_sublist (grows.findParts_subperm _ _)

theorem partPaths_sublist (grows : Grown grown around other) (directory : Path) (part : String) :
    (around.partPaths directory part).Sublist (other.partPaths directory part) := by
  unfold partPaths
  split
  · exact List.Sublist.refl _
  · split
    · refine List.Sublist.map _ (((grows.expand_sublist _).filter _).trans ?_)
      exact List.monotone_filter_right _ fun text => grows.isFile_of_isFile
    · exact List.Sublist.refl _

theorem itemPaths_sublist (grows : Grown grown around other) (directory : Path) (items : String) :
    (around.itemPaths directory items).Sublist (other.itemPaths directory items) :=
  List.Sublist.flatMap_right _ fun part _ => grows.partPaths_sublist directory part

end Grown
end Surroundings
end UsingCensus
