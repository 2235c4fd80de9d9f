import UsingCensus.Proofs.References
import UsingCensus.Proofs.Relocation
import UsingCensus.Proofs.Targets

/-!
Which files a project compiles. Main statement: a file is a document exactly if the default items or a compile
item include it and no compile item from there on removes it; documents are told in their order, each once.
-/
namespace UsingCensus

theorem nodup_eraseDups {α : Type} [DecidableEq α] (list : List α) : list.eraseDups.Nodup := by
  match list with
  | [] => exact List.nodup_nil
  | a :: rest =>
    have shorter := List.length_filter_le (fun b => !b == a) rest
    rw [List.eraseDups_cons, List.nodup_cons]
    refine ⟨fun member => ?_, nodup_eraseDups _⟩
    have kept := (List.mem_filter.mp (List.mem_eraseDups.mp member)).2
    simp at kept
termination_by list.length
decreasing_by
  rw [List.length_cons]
  omega

namespace Path

theorem sortKey_injective {a b : Path} (absolute : a.isAbsolute = true) (also : b.isAbsolute = true)
    (same : a.sortKey = b.sortKey) : a = b := by
  obtain ⟨anchor, parts⟩ := a
  obtain ⟨other, others⟩ := b
  have anchors : anchor ≠ .here ∧ other ≠ .here := by
    simpa [isAbsolute] using And.intro absolute also
  unfold sortKey at same
  rw [if_neg anchors.1, if_neg anchors.2] at same
  obtain ⟨texts, rfl⟩ := List.cons.inj same
  cases anchor <;> cases other <;> simp_all [Anchor.text]

theorem pairwise_sort {paths : List Path} (once : paths.Nodup)
    (absolute : ∀ path ∈ paths, path.isAbsolute = true) :
    (sort paths).Pairwise fun a b => a.sortKey < b.sortKey := by
  have trans (a b c : Path) (one : precedes a b = true) (two : precedes b c = true) : precedes a c = true := by
    simp only [precedes, Bool.not_eq_true', decide_eq_false_iff_not] at one two ⊢
    exact List.not_lt.mpr (List.le_trans (List.not_lt.mp one) (List.not_lt.mp two))
  have total (a b : Path) : (precedes a b || precedes b a) = true := by
    simp only [precedes, Bool.or_eq_true, Bool.not_eq_true', decide_eq_false_iff_not]
    exact (List.le_total a.sortKey b.sortKey).imp List.not_lt.mpr List.not_lt.mpr
  have sorted := List.pairwise_mergeSort trans total paths
  have apart : (sort paths).Nodup := (List.mergeSort_perm paths precedes).nodup_iff.mpr once
  refine (sorted.and apart).imp_of_mem ?_
  rintro a b first second ⟨before, different⟩
  have listed (path : Path) (member : path ∈ sort paths) := absolute path (List.mem_mergeSort.mp member)
  simp only [precedes, Bool.not_eq_true', decide_eq_false_iff_not] at before
  by_contra after
  exact different (sortKey_injective (listed a first) (listed b second)
    (List.le_antisymm (List.not_lt.mp before) (List.not_lt.mp after)))

end Path

namespace Surroundings

open Xml ProjectFile

variable {around : Surroundings} {directory file : Path} {start : List Path} {items : List Element}

/-- What is included at a position: at the start the default items, then what each compile item includes and
does not exclude itself. -/
def inclusion (around : Surroundings) (directory : Path) (start : List Path) (items : List Element) :
    Nat → List Path
  | 0 => start
  | k + 1 => (items[k]?).elim [] (around.includedBy directory)

/-- What is removed at a position: at the start nothing, then what each compile item removes. -/
def removal (around : Surroundings) (directory : Path) (items : List Element) : Nat → List Path
  | 0 => []
  | k + 1 => (items[k]?).elim [] (around.removedBy directory)

/-- The file is included at some position, and not removed there or later. -/
def Remains (around : Surroundings) (directory : Path) (start : List Path) (items : List Element)
    (file : Path) : Prop :=
  ∃ k, file ∈ around.inclusion directory start items k ∧
    ∀ j, max k 1 ≤ j → file ∉ around.removal directory items j

/-- Putting an item in front: what it leaves is what the others start from. -/
theorem remains_cons_iff {item : Element} :
    around.Remains directory start (item :: items) file ↔
      around.Remains directory (around.applyItem directory start item) items file := by
  constructor
  · rintro ⟨k, included, kept⟩
    have later (j : Nat) (from_ : k ≤ j + 2) : file ∉ around.removal directory items (j + 1) :=
      kept (j + 2) (by omega)
    by_cases early : k ≤ 1
    · refine ⟨0, ?_, fun j from_ => ?_⟩
      · have stays : file ∉ around.removedBy directory item := kept 1 (by omega)
        have had : file ∈ start ++ around.includedBy directory item := by
          match k, early with
          | 0, _ => exact List.mem_append_left _ included
          | 1, _ => exact List.mem_append_right _ included
        exact List.mem_filter.mpr ⟨had, by simpa using stays⟩
      · obtain ⟨i, rfl⟩ : ∃ i, j = i + 1 := ⟨j - 1, by omega⟩
        exact later i (by omega)
    · obtain ⟨i, rfl⟩ : ∃ i, k = i + 2 := ⟨k - 2, by omega⟩
      refine ⟨i + 1, included, fun j from_ => ?_⟩
      obtain ⟨l, rfl⟩ : ∃ l, j = l + 1 := ⟨j - 1, by omega⟩
      exact later l (by omega)
  · rintro ⟨k, included, kept⟩
    have later (j : Nat) (from_ : max k 1 ≤ j + 1) : file ∉ around.removal directory (item :: items) (j + 2) :=
      kept (j + 1) from_
    cases k with
    | zero =>
      obtain ⟨had, stays⟩ := List.mem_filter.mp included
      -- the first item removes nothing that it leaves
      have never (j : Nat) (from_ : 1 ≤ j) : file ∉ around.removal directory (item :: items) j := by
        match j, from_ with
        | 1, _ => exact fun gone => (by simpa using stays : file ∉ around.removedBy directory item) gone
        | j + 2, _ => exact later j (by omega)
      rcases List.mem_append.mp had with before | own
      · exact ⟨0, before, fun j from_ => never j (by omega)⟩
      · exact ⟨1, own, fun j from_ => never j (by omega)⟩
    | succ k =>
      refine ⟨k + 2, included, fun j from_ => ?_⟩
      obtain ⟨l, rfl⟩ : ∃ l, j = l + 2 := ⟨j - 2, by omega⟩
      exact later l (by omega)

theorem mem_foldl_applyItem_iff :
    file ∈ items.foldl (around.applyItem directory) start ↔ around.Remains directory start items file := by
  induction items generalizing start with
  | nil =>
    constructor
    · exact fun member => ⟨0, member, fun j _ => by cases j <;> simp [removal]⟩
    · rintro ⟨k, included, _⟩
      cases k with
      | zero => exact included
      | succ k => cases included
  | cons item rest ih => rw [List.foldl_cons, ih, remains_cons_iff]

/-! ### The paths of documents -/

theorem isAbsolute_of_mem_defaultItems (absolute : directory.isAbsolute = true)
    (member : file ∈ around.defaultItems directory) : file.isAbsolute = true := by
  obtain ⟨rest, name, rfl⟩ := eq_of_mem_filesBelow (List.mem_of_mem_filter member)
  exact absolute

theorem isKey_of_mem_defaultItems (down : ∀ name ∈ around.tree.names, FileTree.IsDown name) {project : Path}
    (key : project.IsKey) (member : file ∈ around.defaultItems project.parent) : file.IsKey := by
  have part (name : String) (inside : name ∈ file.parts) :
      (Path.isPart name = true ∧ '/' ∉ name.toList) ∧ name ≠ ".." := by
    rcases mem_names_of_mem_filesBelow (List.mem_of_mem_filter member) name inside with above | named
    · have listed := List.dropLast_subset _ above
      exact ⟨key.proper name listed, (key.named name listed).2⟩
    · obtain ⟨⟨filled, slash⟩, dot, dots⟩ := down name named
      exact ⟨⟨Path.isPart_iff.mpr ⟨filled, dot⟩, slash⟩, dots⟩
  refine ⟨fun name inside => (part name inside).1,
    isAbsolute_of_mem_defaultItems (show project.parent.isAbsolute = true from key.absolute) member,
    0, file.parts, rfl, fun inside => (part _ inside).2 rfl, fun _ => rfl⟩

/-- A document is a default item, or some item list stands for it. -/
theorem Remains.origin (remains : around.Remains directory start items file) :
    file ∈ start ∨ ∃ list, file ∈ around.itemPaths directory list := by
  obtain ⟨k, included, _⟩ := remains
  cases k with
  | zero => exact .inl included
  | succ k =>
    rw [inclusion] at included
    cases found : items[k]? with
    | none =>
      rw [found] at included
      cases included
    | some item =>
      rw [found] at included
      exact .inr ⟨_, List.mem_of_mem_filter included⟩

theorem mem_defaultItems_of_starting {language : Language} {root : Element}
    (member : file ∈ around.startingDocuments language directory root) :
    file ∈ around.defaultItems directory := by
  unfold startingDocuments at member
  split at member
  · exact member
  · cases member

/-- What becomes of the paths of a project whose file holds the outermost element. -/
structure Compiles (around : Surroundings) (file path : Path) (language : Language) (root : Element)
    (project : Project) : Prop where
  documents : ∀ document, document ∈ project.documents ↔
    around.Remains path.parent (around.startingDocuments language path.parent root)
      (root.named (itemName root "Compile")) document
  ascending : project.documents.Pairwise fun a b => a.sortKey < b.sortKey
  absolute : ∀ path ∈ project.documents ++ project.references, path.isAbsolute = true
  /-- Paths are normal as long as the names in the tree are names. -/
  keys : around.Settled → file.Proper → (∀ name ∈ around.tree.names, FileTree.IsDown name) →
    ∀ path ∈ project.documents ++ project.references, path.IsKey

variable {path document reference : Path} {language : Language} {root : Element}

theorem mem_documents_iff : document ∈ (around.describe path language root).1.documents ↔
    around.Remains path.parent (around.startingDocuments language path.parent root)
      (root.named (itemName root "Compile")) document := by
  unfold describe
  dsimp only
  rw [Path.sort, List.mem_mergeSort, List.mem_eraseDups, mem_foldl_applyItem_iff]

theorem origin_of_mem_paths (member : document ∈ (around.describe path language root).1.documents ++
      (around.describe path language root).1.references) :
    document ∈ around.defaultItems path.parent ∨ ∃ list, document ∈ around.itemPaths path.parent list := by
  rcases List.mem_append.mp member with listed | referred
  · exact (mem_documents_iff.mp listed).origin.imp_left mem_defaultItems_of_starting
  · obtain ⟨item, _, found⟩ := List.mem_flatMap.mp referred
    exact .inr ⟨_, found⟩

theorem isAbsolute_of_mem_paths (absolute : path.isAbsolute = true)
    (member : document ∈ (around.describe path language root).1.documents ++
      (around.describe path language root).1.references) : document.isAbsolute = true := by
  have rooted : path.parent.isAbsolute = true := absolute
  rcases origin_of_mem_paths member with default | ⟨list, found⟩
  · exact isAbsolute_of_mem_defaultItems rooted default
  · exact isAbsolute_of_mem_itemPaths rooted found

/-- Every project that evaluates has the documents that its items leave, whatever they are. -/
theorem evaluate_compiles {project : Project} {reports : List String}
    (evaluates : around.evaluate file = .ok (project, reports)) :
    ∃ language bytes root, Language.of? (around.projectKey file) = some language ∧
      around.read (around.projectKey file).toString = .ok bytes ∧ Xml.parse bytes = .ok root ∧
      Compiles around file (around.projectKey file) language root project := by
  unfold evaluate at evaluates
  rw [← projectKey] at evaluates
  dsimp only at evaluates
  split at evaluates
  · cases evaluates
  rename_i language known
  split at evaluates
  · cases evaluates
  · cases evaluates
  rename_i bytes read
  split at evaluates
  case h_1 root parsed =>
    have described : (around.describe (around.projectKey file) language root).1 = project :=
      congrArg Prod.fst (Except.ok.inj evaluates)
    have absolute := around.isAbsolute_projectKey file
    refine ⟨language, bytes, root, known, read, parsed, ?_⟩
    rw [← described]
    refine ⟨fun document => mem_documents_iff, ?_, fun path => isAbsolute_of_mem_paths absolute, ?_⟩
    · exact Path.pairwise_sort (nodup_eraseDups _) fun path member =>
        isAbsolute_of_mem_paths absolute (List.mem_append_left _ (List.mem_mergeSort.mpr member))
    · intro settled proper down path member
      have key := isKey_projectKey settled proper
      rcases origin_of_mem_paths member with default | ⟨list, found⟩
      · exact isKey_of_mem_defaultItems down key default
      · exact isKey_of_mem_itemPaths key.proper.parent key.absolute found
  all_goals cases evaluates

/-- A project that includes two files, removes both, and includes one of them again. -/
def compiledSample : Surroundings where
  tree := [
    (["r", "p.csproj"], "<Project><Compile Include='a.cs;b.cs'/><Compile Remove='a.cs;b*.cs'/>" ++
      "<Compile Include='b.cs' Exclude='a.cs'/></Project>"),
    (["r", "b.cs"], "")].foldl
      (fun tree (location, text) => tree.plant location (.file (Text.Utf8.ofString text))) FileTree.empty
  directory := ["r"]
  home := "/r"

/-- Of the removed files the one that a later item includes is back. -/
theorem evaluate_compiles_sample :
    ∃ project reports, compiledSample.evaluate ⟨.here, ["p.csproj"]⟩ = .ok (project, reports) ∧
      project.documents = [⟨.root, ["r", "b.cs"]⟩] ∧
      (∃ language bytes root, Language.of? ⟨.root, ["r", "p.csproj"]⟩ = some language ∧
        compiledSample.read "/r/p.csproj" = .ok bytes ∧ Xml.parse bytes = .ok root ∧
        Compiles compiledSample ⟨.here, ["p.csproj"]⟩ ⟨.root, ["r", "p.csproj"]⟩ language root project) ∧
      ∀ path ∈ project.documents ++ project.references, path.IsKey := by
  have evaluates : compiledSample.evaluate ⟨.here, ["p.csproj"]⟩ = .ok (⟨⟨.root, ["r", "p.csproj"]⟩, "p",
      some .csharp, [⟨.root, ["r", "b.cs"]⟩], []⟩, []) := by
    decide +kernel
  have settled : compiledSample.Settled :=
    settled_of_directory rfl (by unfold FileTree.Legal; decide) (by decide +kernel)
  have down : ∀ name ∈ compiledSample.tree.names, FileTree.IsDown name := by
    have all : ∀ name ∈ compiledSample.tree.names,
        name ≠ "" ∧ '/' ∉ name.toList ∧ name ≠ "." ∧ name ≠ ".." := by decide +kernel
    intro name member
    obtain ⟨filled, slash, dot, dots⟩ := all name member
    exact ⟨⟨filled, slash⟩, dot, dots⟩
  have compiles := evaluate_compiles evaluates
  have key : compiledSample.projectKey ⟨.here, ["p.csproj"]⟩ = ⟨.root, ["r", "p.csproj"]⟩ := by decide +kernel
  rw [key] at compiles
  refine ⟨_, _, evaluates, rfl, compiles, ?_⟩
  obtain ⟨_, _, _, _, _, _, settles⟩ := compiles
  exact settles.keys settled (by unfold Path.Proper; decide) down

end Surroundings
end UsingCensus
