import UsingCensus.Proofs.Listings
import UsingCensus.Proofs.References
import UsingCensus.Target

namespace UsingCensus

namespace FileTree

/-- A step of a walk: a name, or one that stays in place or leads up. -/
def IsStep (name : String) : Prop := name ≠ "" ∧ '/' ∉ name.toList

structure IsDown (name : String) : Prop where
  step : IsStep name
  dot : name ≠ "."
  dots : name ≠ ".."

theorem isStep_of_mem_steps {text name : String} (member : name ∈ steps text) : IsStep name := by
  have piece (listed : name ∈ (Path.pieces text).filter (· ≠ "")) : IsStep name := by
    obtain ⟨cut, filled⟩ := List.mem_filter.mp listed
    obtain ⟨cs, split, rfl⟩ := List.mem_map.mp cut
    refine ⟨by simpa using filled, ?_⟩
    rw [String.toList_ofList]
    exact Text.not_mem_of_mem_splitAt split
  unfold steps at member
  dsimp only at member
  split at member
  · rcases List.mem_append.mp member with listed | dot
    · exact piece listed
    · rw [List.mem_singleton.mp dot]
      exact ⟨by decide, by decide⟩
  · exact piece member

/-- What comes of replacing links: names that lead down, or the steps that are left at a circle. -/
def Unlinked : Except (List String) Location → Prop
  | .ok location => ∀ name ∈ location, IsDown name
  | .error parts => ∀ name ∈ parts, IsStep name

theorem unlinked_unlink (tree : FileTree) (budget : Nat) (entered : List Location) (here : Location)
    (rest : List String) (passed : ∀ name ∈ here, IsDown name) (ahead : ∀ name ∈ rest, IsStep name) :
    Unlinked (tree.unlink budget entered here rest) := by
  have started (target : String) {here : Location} (passed : ∀ name ∈ here, IsDown name) :
      ∀ name ∈ startOf target here, IsDown name := by
    unfold startOf
    split
    · simp
    · exact passed
  have entering {here : Location} {name : String} (passed : ∀ name ∈ here, IsDown name) (step : IsStep name)
      (dot : name ≠ ".") (dots : name ≠ "..") : ∀ other ∈ here ++ [name], IsDown other := by
    refine List.forall_mem_append.mpr ⟨passed, ?_⟩
    exact List.forall_mem_singleton.mpr ⟨step, dot, dots⟩
  fun_induction unlink tree budget entered here rest with
  | case1 => exact passed
  | case2 budget entered here more ih => exact ih passed (List.forall_mem_cons.mp ahead).2
  | case3 budget entered here more dot ih =>
    exact ih (fun name member => passed name (List.dropLast_subset _ member)) (List.forall_mem_cons.mp ahead).2
  | case4 budget entered here name more dot dots next target found circle =>
    obtain ⟨step, later⟩ := List.forall_mem_cons.mp ahead
    exact List.forall_mem_append.mpr
      ⟨fun other member => (entering passed step dot dots other member).step, later⟩
  | case5 entered here name more dot dots next target found new =>
    obtain ⟨step, later⟩ := List.forall_mem_cons.mp ahead
    exact List.forall_mem_append.mpr
      ⟨fun other member => (entering passed step dot dots other member).step, later⟩
  | case6 entered here name more dot dots next target found new fewer parts circle ih =>
    have left := ih (started target passed) fun name member => isStep_of_mem_steps member
    rw [circle] at left
    exact List.forall_mem_append.mpr ⟨left, (List.forall_mem_cons.mp ahead).2⟩
  | case7 entered here name more dot dots next target found new fewer there replaced ih later =>
    have led := ih (started target passed) fun name member => isStep_of_mem_steps member
    rw [replaced] at led
    exact later led (List.forall_mem_cons.mp ahead).2
  | case8 budget entered here name more dot dots next plain ih =>
    obtain ⟨step, later⟩ := List.forall_mem_cons.mp ahead
    exact ih (entering passed step dot dots) later

end FileTree

namespace Surroundings

open FileTree

variable {around : Surroundings} {path directory found goal : Path} {text name : String}

/-- The names in the file tree are names. -/
def Named (around : Surroundings) : Prop :=
  ∀ name ∈ around.tree.names, Path.isPart name = true ∧ '/' ∉ name.toList

theorem mem_names_of_namesOf (listed : name ∈ around.namesOf text) : name ∈ around.tree.names := by
  obtain ⟨location, _, _, stands⟩ := exists_of_mem_namesOf listed
  obtain ⟨entry, found⟩ := Option.ne_none_iff_exists'.mp stands
  exact mem_names found

theorem mem_names_of_mem_filesBelow {enter : Nat → String → Bool} {fuel depth : Nat}
    (member : found ∈ around.filesBelow enter fuel depth directory) :
    ∀ part ∈ found.parts, part ∈ directory.parts ∨ part ∈ around.tree.names := by
  induction fuel generalizing depth directory with
  | zero => cases member
  | succ fewer ih =>
    have child {name part : String} (listed : name ∈ sortNames (around.namesOf (directory.spelled depth)))
        (inside : part ∈ (directory.child name).parts) :
        part ∈ directory.parts ∨ part ∈ around.tree.names := by
      rcases List.mem_append.mp inside with above | own
      · exact .inl above
      · exact .inr (List.mem_singleton.mp own ▸ mem_names_of_namesOf (mem_sortNames.mp listed))
    intro part inside
    rw [filesBelow] at member
    rcases List.mem_append.mp member with own | deeper
    · obtain ⟨name, listed, rfl⟩ := List.mem_map.mp own
      exact child (List.mem_of_mem_filter listed) inside
    · obtain ⟨name, listed, deeper⟩ := List.mem_flatMap.mp deeper
      rcases ih deeper part inside with above | named
      · exact child (List.mem_of_mem_filter listed) above
      · exact .inr named

theorem proper_of_mem_filesBelow (named : around.Named) {enter : Nat → String → Bool} {fuel depth : Nat}
    (proper : directory.Proper) (member : found ∈ around.filesBelow enter fuel depth directory) :
    found.Proper :=
  fun part inside => (mem_names_of_mem_filesBelow member part inside).elim (proper part) (named part)

/-- A path spelled like one of a file stands for itself; any other stands for a file that is found below it. -/
theorem locateDescriptor_cases (located : around.locateDescriptor text = .ok (some found)) :
    (Target.isDescriptor text = true ∧ found = Path.ofString text) ∨
      (Target.isDescriptor text = false ∧ found ∈ around.walk Target.entersFolder (Path.ofString text) ∧
        ∃ ending ∈ Target.endings, Target.hasEnding ending found.name = true) := by
  unfold locateDescriptor at located
  split at located
  · rename_i spelled
    exact .inl ⟨spelled, (Option.some.inj (Except.ok.inj located)).symm⟩
  rename_i plain
  split at located
  · cases located
  · have first : around.firstDescriptor? (Path.ofString text) = some found := Except.ok.inj located
    obtain ⟨ending, member, chosen⟩ := List.exists_of_findSome?_eq_some first
    exact .inr ⟨Bool.eq_false_iff.mpr plain, List.mem_of_find?_eq_some chosen, ending, member,
      (List.find?_some chosen :)⟩

theorem proper_of_locateDescriptor (named : around.Named)
    (located : around.locateDescriptor text = .ok (some found)) : found.Proper := by
  rcases locateDescriptor_cases located with ⟨_, rfl⟩ | ⟨_, below, _⟩
  · exact Path.proper_ofString text
  · exact proper_of_mem_filesBelow named (Path.proper_ofString text) below

/-- A home directory stands for a first part that means it; any other path is kept. -/
theorem expandHome_cases (expanded : around.expandHome path = .ok found) :
    (∃ first rest home, path = ⟨.here, first :: rest⟩ ∧ around.homeOf? first = some home ∧
      found = (Path.ofString home).join ⟨.here, rest⟩) ∨ found = path := by
  obtain ⟨anchor, parts⟩ := path
  unfold expandHome at expanded
  split at expanded
  · rename_i first rest here named
    obtain rfl : anchor = .here := here
    obtain rfl : parts = first :: rest := named
    split at expanded
    · rename_i home known
      exact .inl ⟨first, rest, home, rfl, known, (Except.ok.inj expanded).symm⟩
    · split at expanded
      · cases expanded
      · exact .inr (Except.ok.inj expanded).symm
  · exact .inr (Except.ok.inj expanded).symm

theorem proper_of_expandHome (proper : path.Proper) (expanded : around.expandHome path = .ok found) :
    found.Proper := by
  rcases expandHome_cases expanded with ⟨first, rest, home, rfl, -, rfl⟩ | rfl
  · exact (Path.proper_ofString home).join fun part member => proper part (List.mem_cons_of_mem _ member)
  · exact proper

theorem isKey_of_canonical (settled : around.Settled) (proper : path.Proper)
    (canonical : around.canonical path = .ok goal) : goal.IsKey := by
  have start : ∀ part ∈ (around.absolute path).parts, IsStep part := by
    have place : (Path.mk .root around.directory).Proper := fun part member =>
      ⟨(settled.legal part member).1, (settled.legal part member).2.1⟩
    intro part member
    obtain ⟨isPart, slash⟩ := place.join proper part member
    exact ⟨(Path.isPart_iff.mp isPart).1, slash⟩
  have replaced := unlinked_unlink around.tree around.tree.entries.length [] [] _ (by simp) start
  unfold Surroundings.canonical at canonical
  split at canonical
  · cases canonical
  dsimp only at canonical
  split at canonical
  · rename_i location led
    rw [led] at replaced
    cases canonical
    refine ⟨?_, rfl, 0, location, rfl, ?_, fun _ => rfl⟩
    · intro part member
      obtain ⟨⟨filled, slash⟩, dot, _⟩ := replaced part member
      exact ⟨Path.isPart_iff.mpr ⟨filled, dot⟩, slash⟩
    · exact fun member => (replaced ".." member).dots rfl
  · rename_i parts circle
    rw [circle] at replaced
    have standing : (Path.mk .root (parts.filter Path.isPart)).Proper := by
      intro part member
      obtain ⟨listed, isPart⟩ := List.mem_filter.mp member
      exact ⟨isPart, (replaced part listed).2⟩
    have goes : goal = (Path.mk .root (parts.filter Path.isPart)).normal := by
      split at canonical
      · cases canonical
      · exact (Except.ok.inj canonical).symm
    rw [goes]
    exact ⟨standing.normal, rfl, Path.normal_normal _⟩

theorem resolveTarget_eq_ok {target : Target} (resolves : around.resolveTarget text = .ok target) :
    around.pathExists text = true ∧ around.isValidPath text = true ∧
      ∃ located meant resolved, around.locateDescriptor text = .ok (some located) ∧
        around.expandHome located = .ok meant ∧ around.canonical meant = .ok resolved ∧
        target = ⟨text, resolved, if around.isDirectory text then .directory else .file⟩ := by
  unfold resolveTarget at resolves
  split at resolves
  · cases resolves
  rename_i present
  split at resolves
  · cases resolves
  rename_i valid
  refine ⟨by simpa using present, by simpa using valid, ?_⟩
  split at resolves
  · cases resolves
  · cases resolves
  rename_i located found
  split at resolves
  · cases resolves
  rename_i resolved led
  cases expanded : around.expandHome located with
  | error fault =>
    rw [expanded] at led
    cases led
  | ok meant =>
    rw [expanded] at led
    exact ⟨located, meant, resolved, found, expanded, led, (Except.ok.inj resolves).symm⟩

theorem isKey_of_resolveTarget (settled : around.Settled) (named : around.Named) {target : Target}
    (resolves : around.resolveTarget text = .ok target) : target.resolved.IsKey := by
  obtain ⟨_, _, located, meant, resolved, found, expanded, canonical, rfl⟩ := resolveTarget_eq_ok resolves
  have proper := proper_of_locateDescriptor named found
  exact isKey_of_canonical settled (proper_of_expandHome proper expanded) canonical

end Surroundings
end UsingCensus
