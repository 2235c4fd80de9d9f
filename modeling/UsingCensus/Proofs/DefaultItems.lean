import UsingCensus.Proofs.Detours

/-!
The default items of a project. Main statement: they are the C# sources in and below the directory, each once,
unless they lie in a hidden folder or in an output folder right there. Links to directories are told from files as
far as the system follows them, and too long paths are passed over.
-/
namespace UsingCensus

open FileTree Wildcard ProjectFile

namespace ProjectFile

variable {folders : List String} {folder name : String}

/-- Folders that default items lie in, one below the other: none is hidden, and the first is no output folder. -/
def Compiled (folders : List String) : Prop :=
  (∀ folder ∈ folders, isHidden folder = false) ∧
    ∀ folder ∈ folders.head?, Text.lowerText folder ∉ outputFolders

def isSource (name : String) : Bool := Text.endsIn (Text.lowerText name) ".cs"

theorem not_isHidden_of_output (output : Text.lowerText folder ∈ outputFolders) : isHidden folder = false := by
  rw [Bool.eq_false_iff]
  intro hidden
  obtain ⟨rest, spelled⟩ := List.isPrefixOf_iff_prefix.mp hidden
  have dot : (Text.lowerText folder).toList.head? = some '.' := by
    rw [Text.lowerText, String.toList_ofList, ← spelled]
    rfl
  have others : ∀ other ∈ outputFolders, other.toList.head? ≠ some '.' := by decide
  exact others _ output dot

theorem Compiled.not_mem (compiled : Compiled folders) (hidden : isHidden folder = true) : folder ∉ folders := by
  intro member
  rw [compiled.1 folder member] at hidden
  cases hidden

theorem Compiled.insert {first : String} {front rest : List String} (compiled : Compiled (first :: (front ++ rest)))
    (output : Text.lowerText folder ∈ outputFolders) : Compiled (first :: (front ++ folder :: rest)) := by
  obtain ⟨visible, start⟩ := compiled
  refine ⟨?_, start⟩
  simp only [List.forall_mem_cons, List.forall_mem_append] at visible ⊢
  exact ⟨visible.1, visible.2.1, not_isHidden_of_output output, visible.2.2⟩

end ProjectFile

namespace Surroundings

variable {around : Surroundings} {enter : Nat → String → Bool} {directory path : Path} {base : Location}
  {folders : List String} {name text : String} {depth : Nat}

/-! ### Folders -/

theorem entered_succ_iff : Mirrors.Entered entersFolder (depth + 1) folders ↔
    ∀ folder ∈ folders, isHidden folder = false := by
  induction folders generalizing depth with
  | nil => exact iff_of_true trivial fun _ member => nomatch member
  | cons folder more ih =>
    have entered : entersFolder (depth + 1) folder = true ↔ isHidden folder = false := by simp [entersFolder]
    rw [Mirrors.Entered, entered, ih, List.forall_mem_cons]

theorem entered_iff : Mirrors.Entered entersFolder 0 folders ↔ Compiled folders := by
  cases folders with
  | nil => exact iff_of_true trivial (by simp [Compiled])
  | cons folder more =>
    have entered : entersFolder 0 folder = true ↔
        isHidden folder = false ∧ Text.lowerText folder ∉ outputFolders := by
      simp [entersFolder]
    rw [Mirrors.Entered, entered, entered_succ_iff, Compiled, List.forall_mem_cons]
    simp [and_assoc, and_comm]

theorem entered_always (depth : Nat) (folders : List String) : Mirrors.Entered (fun _ _ => true) depth folders := by
  induction folders generalizing depth with
  | nil => trivial
  | cons folder more ih => exact ⟨rfl, ih (depth + 1)⟩

theorem found_iff : around.Found enter 0 text base folders name ↔
    Mirrors.Entered enter 0 folders ∧ around.Found (fun _ _ => true) 0 text base folders name :=
  ⟨fun found => ⟨found.entered, { found with entered := entered_always 0 folders }⟩,
    fun ⟨entered, found⟩ => { found with entered := entered }⟩

/-! ### Sources -/

/-- A C# source below the directory in folders that default items lie in. -/
structure HasSource (around : Surroundings) (directory : Path) (base : Location) (folders : List String)
    (name : String) : Prop where
  compiled : Compiled folders
  source : isSource name = true
  found : around.Found (fun _ _ => true) 0 directory.toString base folders name

/-- The default items are the sources below the directory. -/
structure ListsSources (around : Surroundings) (directory : Path) (base : Location) : Prop where
  once : (around.defaultItems directory).Nodup
  mem_iff : ∀ path, path ∈ around.defaultItems directory ↔
    ∃ folders name, path = directory.within (folders ++ [name]) ∧ around.HasSource directory base folders name
  deeper : ∀ first front folder rest name, Text.lowerText folder ∈ outputFolders →
    Compiled (first :: (front ++ rest)) → isSource name = true →
    around.Found (fun _ _ => true) 0 directory.toString base (first :: (front ++ folder :: rest)) name →
      directory.within (first :: (front ++ folder :: rest) ++ [name]) ∈ around.defaultItems directory
  hidden : ∀ front folder rest, rest ≠ [] → isHidden folder = true →
    directory.within (front ++ folder :: rest) ∉ around.defaultItems directory
  output : ∀ folder rest, rest ≠ [] → Text.lowerText folder ∈ outputFolders →
    directory.within (folder :: rest) ∉ around.defaultItems directory

theorem mem_defaultItems_iff (lawful : around.Lawful) (visited : around.Visited 0 directory directory.toString base) :
    path ∈ around.defaultItems directory ↔
      ∃ folders name, path = directory.within (folders ++ [name]) ∧ around.HasSource directory base folders name := by
  rw [defaultItems, List.mem_filter, mem_walk_iff lawful visited]
  constructor
  · rintro ⟨⟨folders, name, rfl, found⟩, source⟩
    obtain ⟨entered, lies⟩ := found_iff.mp found
    rw [Path.name_within] at source
    exact ⟨folders, name, rfl, entered_iff.mp entered, source, lies⟩
  · rintro ⟨folders, name, rfl, has⟩
    refine ⟨⟨folders, name, rfl, found_iff.mpr ⟨entered_iff.mpr has.compiled, has.found⟩⟩, ?_⟩
    rw [Path.name_within]
    exact has.source

theorem listsSources (lawful : around.Lawful) (visited : around.Visited 0 directory directory.toString base) :
    around.ListsSources directory base := by
  have within {place folders : List String} {name : String}
      (same : directory.within place = directory.within (folders ++ [name])) : place = folders ++ [name] :=
    directory.within_injective same
  refine ⟨(nodup_filesBelow around _ _ 0 directory).filter _, fun path => mem_defaultItems_iff lawful visited,
    fun first front folder rest name output compiled source found => ?_,
    fun front folder rest some hidden member => ?_, fun folder rest some output member => ?_⟩
  · exact (mem_defaultItems_iff lawful visited).mpr ⟨_, _, rfl, compiled.insert output, source, found⟩
  · obtain ⟨folders, name, same, has⟩ := (mem_defaultItems_iff lawful visited).mp member
    refine has.compiled.not_mem hidden ?_
    obtain ⟨more, last, rfl⟩ := (List.eq_nil_or_concat rest).resolve_left some
    have parts := within same
    rw [List.concat_eq_append, ← List.cons_append, ← List.append_assoc] at parts
    rw [← (List.append_inj' parts rfl).1]
    simp
  · obtain ⟨folders, name, same, has⟩ := (mem_defaultItems_iff lawful visited).mp member
    obtain ⟨more, last, rfl⟩ := (List.eq_nil_or_concat rest).resolve_left some
    have parts := within same
    rw [List.concat_eq_append, ← List.cons_append] at parts
    exact has.compiled.2 folder (by simp [← (List.append_inj' parts rfl).1]) output

theorem defaultItems_eq_nil (absent : around.isDirectory directory.toString = false) :
    around.defaultItems directory = [] := by
  have none : around.namesOf directory.toString = [] := by
    rw [namesOf_eq]
    cases found : around.locate? true directory.toString with
    | none => rfl
    | some base =>
      rw [Option.elim_some, if_neg]
      intro stands
      rw [isDirectory_iff.mpr ⟨base, found, stands⟩] at absent
      cases absent
  have nothing : sortNames [] = [] := by simp [sortNames]
  rw [defaultItems, walk, filesBelow, Path.spelled_zero, none, nothing]
  rfl

/-- The default items are the C# sources below the directory that neither a hidden folder nor an output folder at
the top keeps away, each once. -/
theorem defaultItems_sources (lawful : around.Lawful) (proper : directory.Proper) :
    (around.isDirectory directory.toString = true → ∃ base,
      around.locate? true directory.toString = some base ∧ around.tree.entry? base = some .directory ∧
        around.ListsSources directory base) ∧
      (around.isDirectory directory.toString = false → around.defaultItems directory = []) := by
  refine ⟨fun leads => ?_, defaultItems_eq_nil⟩
  obtain ⟨base, found, stands⟩ := isDirectory_iff.mp leads
  exact ⟨base, found, stands, listsSources lawful (visited_toString proper found stands)⟩

/-- Sources in an output folder, in a hidden one and in one that is neither, and a link to a folder. -/
def sourcesSample : Surroundings where
  tree := ⟨[(["r"], .directory), (["r", "a.cs"], .file []), (["r", "Bin"], .directory),
    (["r", "Bin", "b.cs"], .file []), (["r", "src"], .directory), (["r", "src", "Obj"], .directory),
    (["r", "src", "Obj", "c.CS"], .file []), (["r", "src", ".h"], .directory), (["r", "src", ".h", "d.cs"], .file []),
    (["r", "e.cs"], .link "src")], by decide⟩
  directory := ["r"]
  home := "/r"

/-- An output folder in another folder is kept, the one at the top and a hidden one are not. -/
theorem defaultItems_sources_sample :
    (∃ base, sourcesSample.locate? true "/r" = some base ∧ sourcesSample.ListsSources ⟨.root, ["r"]⟩ base ∧
      (⟨.root, ["r", "src", "Obj", "c.CS"]⟩ : Path) ∈ sourcesSample.defaultItems ⟨.root, ["r"]⟩ ∧
      (⟨.root, ["r", "Bin", "b.cs"]⟩ : Path) ∉ sourcesSample.defaultItems ⟨.root, ["r"]⟩ ∧
      (⟨.root, ["r", "src", ".h", "d.cs"]⟩ : Path) ∉ sourcesSample.defaultItems ⟨.root, ["r"]⟩) ∧
    sourcesSample.defaultItems ⟨.root, ["r", "a.cs"]⟩ = [] := by
  have lawful : sourcesSample.Lawful := by
    unfold Lawful Nameable Legal
    decide +kernel
  have proper : (Path.mk .root ["r"]).Proper ∧ (Path.mk .root ["r", "a.cs"]).Proper := by
    unfold Path.Proper
    decide
  obtain ⟨base, found, _, lists⟩ := (defaultItems_sources lawful proper.1).1 (by decide +kernel)
  have place : base = ["r"] := by
    have there : sourcesSample.locate? true (Path.mk .root ["r"]).toString = some ["r"] := by decide +kernel
    exact Option.some.inj (found.symm.trans there)
  subst place
  have standing : ∀ place ∈ ["src", "Obj"].inits, sourcesSample.tree.entry? (["r"] ++ place) = some .directory := by
    decide
  refine ⟨⟨["r"], found, lists, ?_, lists.output "Bin" ["b.cs"] (by decide) (by decide),
    lists.hidden ["src"] ".h" ["d.cs"] (by decide) (by decide)⟩,
    (defaultItems_sources lawful proper.2).2 (by decide +kernel)⟩
  refine lists.deeper "src" [] "Obj" [] "c.CS" (by decide) (by unfold Compiled; decide) (by decide) ?_
  exact ⟨entered_always 0 _, fun place prefixed => standing place ((List.mem_inits _ _).mpr prefixed), by decide,
    by decide, by decide, by decide +kernel⟩

/-- On a detour through many links a link to a directory is listed as a source, though it counts as a directory; and
a source below a long path is not listed, though it is there. -/
theorem defaultItems_limited :
    (linkedSample.isDirectory linkedDetour.toString = true ∧
      linkedSample.locate? true linkedDetour.toString = some ["r"] ∧
      linkedDetour.within ["x.cs"] ∈ linkedSample.defaultItems linkedDetour ∧
      ∀ enter folders name, ¬ linkedSample.Bare enter ["r"] folders name) ∧
    (nestedSample.isDirectory nestedDetour.toString = true ∧
      nestedSample.locate? true nestedDetour.toString = some ["r"] ∧
      Compiled [outerName, innerName] ∧ isSource "x.cs" = true ∧
      nestedSample.Bare (fun _ _ => true) ["r"] [outerName, innerName] "x.cs" ∧
      nestedDetour.within [outerName, innerName, "x.cs"] ∉ nestedSample.defaultItems nestedDetour) := by
  constructor
  · have visited := visited_toString isFolder_linkedDetour.proper locate?_linkedDetour rfl
    refine ⟨isDirectory_linkedDetour, locate?_linkedDetour, ?_, not_bare_linkedSample⟩
    exact (mem_defaultItems_iff linkedSample_lawful visited).mpr ⟨[], "x.cs", rfl, by unfold Compiled; decide,
      by decide, found_linkedDetour _ (by decide)⟩
  · have visited := visited_toString isFolder_nestedDetour.proper locate?_nestedDetour rfl
    refine ⟨isDirectory_nestedDetour, locate?_nestedDetour, ?_, by decide, bare_nestedSample ⟨rfl, rfl⟩ (by decide),
      fun member => ?_⟩
    · have visible {c : Char} (letter : c ≠ '.') : isHidden (repeatLetter c 200) = false :=
        not_isHidden_repeatLetter letter 200
      have outside : Text.lowerText outerName ∉ outputFolders := by
        rw [outerName, lowerText_repeatLetter (by decide)]
        exact repeatLetter_not_mem (by decide) 200
      refine ⟨List.forall_mem_cons.mpr ⟨visible (by decide), List.forall_mem_singleton.mpr (visible (by decide))⟩, ?_⟩
      simpa using outside
    · obtain ⟨folders, name, same, has⟩ := (mem_defaultItems_iff nestedSample_lawful visited).mp member
      have source := has.source
      rw [eq_of_found_nestedDetour has.found, isSource, loopName, lowerText_repeatLetter (by decide)] at source
      have dot : '.' ∈ (repeatLetter 'l' 250).toList :=
        (List.isSuffixOf_iff_suffix.mp source).mem (by decide)
      exact absurd (mem_repeatLetter dot) (by decide)

end Surroundings
end UsingCensus
