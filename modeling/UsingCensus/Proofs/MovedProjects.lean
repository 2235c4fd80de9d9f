import UsingCensus.Proofs.PlainFolders

/-!
Projects in a folder that stands under another path elsewhere. Main statement: as long as what a project
names does not lead out of its folder, it is evaluated to the same documents and references there.
-/
namespace UsingCensus.Surroundings

open FileTree ProjectFile Xml

variable {around other : Surroundings} {here there : Path}

/-- A project whose items, default ones included, do not lead out of the folder. -/
structure ContainedProject (around : Surroundings) (here there : Path) (language : Language) (root : Element) :
    Prop where
  items : ∀ item ∈ root.named (itemName root "Compile"), around.ContainedItem here there item
  references : ∀ item ∈ root.named (itemName root "ProjectReference"),
    ∀ part ∈ ItemList.parts (attributeText item "Include"), around.Contained here there part
  defaults : language = .csharp → isSdkStyle root = true → defaultItemsEnabled root = true →
    around.Enclosed here there

/-- The same project in the other folder. -/
def moveProject (here there : Path) (project : Project) : Project where
  path := Path.moved here there project.path
  name := project.name
  language := project.language
  documents := project.documents.map (Path.moved here there)
  references := project.references.map (Path.moved here there)

theorem toOption_read (around : Surroundings) (text : String) :
    (around.read text).toOption = (around.find true text).toOption.bind fun
      | .file bytes => some bytes
      | _ => none := by
  unfold read
  cases around.find true text with
  | error fault => rfl
  | ok entry => cases entry <;> rfl

theorem toOption_evaluate (around : Surroundings) (file : Path) :
    (around.evaluate file).toOption =
      (Language.of? (around.projectKey file)).bind fun language =>
        ((around.read (around.projectKey file).toString).toOption.bind fun bytes =>
          (Xml.parse bytes).toOption).map (around.describe (around.projectKey file) language) := by
  unfold evaluate
  rw [← projectKey]
  dsimp only
  generalize around.projectKey file = path
  cases Language.of? path with
  | none => rfl
  | some language =>
    dsimp only [Option.bind_some]
    cases around.read path.toString with
    | error fault => cases fault <;> rfl
    | ok bytes =>
      change _ = (Xml.parse bytes).toOption.map _
      dsimp only
      cases Xml.parse bytes with
      | error fault => cases fault <;> rfl
      | ok root => rfl

theorem parent_child (folder : Path) (name : String) : (folder.child name).parent = folder := by
  unfold Path.parent Path.child
  rw [List.dropLast_concat]

theorem moved_child (here there : Path) (name : String) :
    Path.moved here there (here.child name) = there.child name :=
  Path.moved_append here there [name]

namespace Moves

theorem describe_moved (moves : Moves around other here there) (name : String) {language : Language}
    {root : Element} (contained : around.ContainedProject here there language root) :
    (other.describe (there.child name) language root).1 =
        moveProject here there (around.describe (here.child name) language root).1 ∧
      ∀ path ∈ (around.describe (here.child name) language root).1.documents ++
        (around.describe (here.child name) language root).1.references, here.Within path := by
  have starting : Moved here there (around.startingDocuments language here root)
      (other.startingDocuments language there root) := by
    unfold startingDocuments
    split
    · rename_i applies
      simp only [Bool.and_eq_true, decide_eq_true_iff] at applies
      exact moves.defaultItems_moved (contained.defaults applies.1.1 applies.1.2 applies.2)
    · exact ⟨rfl, by simp⟩
  have documents := (moves.foldl_applyItem_moved starting contained.items).sorted moves.source.absolute
    moves.goal.absolute
  have references : Moved here there
      ((root.named (itemName root "ProjectReference")).flatMap fun item =>
        around.itemPaths here (attributeText item "Include"))
      ((root.named (itemName root "ProjectReference")).flatMap fun item =>
        other.itemPaths there (attributeText item "Include")) :=
    Moved.flatMap fun item member => moves.itemPaths_moved (contained.references item member)
  have stem : (here.child name).stem = (there.child name).stem := by
    simp [Path.stem, Path.name, Path.child]
  constructor
  · unfold describe moveProject
    dsimp only
    rw [parent_child, parent_child, moved_child, stem, documents.1, references.1]
  · unfold describe
    dsimp only
    rw [parent_child]
    exact List.forall_mem_append.mpr ⟨documents.2, references.2⟩

/-- A project is evaluated to the same documents and references wherever its folder stands. -/
theorem evaluate_moved (moves : Moves around other here there) {file elsewhere : Path} {name : String}
    (stands : around.projectKey file = here.child name) (moved : other.projectKey elsewhere = there.child name)
    (inside : around.Inside here there (Path.trail [name]))
    (contained : ∀ language bytes root, Language.of? (here.child name) = some language →
      around.read (here.child name).toString = .ok bytes → Xml.parse bytes = .ok root →
      around.ContainedProject here there language root) :
    (other.evaluate elsewhere).toOption.map Prod.fst =
        ((around.evaluate file).toOption.map Prod.fst).map (moveProject here there) ∧
      ∀ project reports, around.evaluate file = .ok (project, reports) →
        ∀ path ∈ project.documents ++ project.references, here.Within path := by
  have language : Language.of? (there.child name) = Language.of? (here.child name) :=
    Language.of?_congr (by simp [Path.name, Path.child])
  have bytes : (other.read (there.child name).toString).toOption =
      (around.read (here.child name).toString).toOption := by
    have text (folder : Path) (isFolder : folder.IsFolder) :
        (folder.child name).toString = folder.toString ++ Path.trail [name] := isFolder.toString_append [name]
    rw [toOption_read, toOption_read, text there moves.goal.toIsFolder, text here moves.source.toIsFolder,
      moves.toOption_find_eq inside]
  constructor
  · rw [toOption_evaluate, toOption_evaluate, stands, moved, language, bytes]
    cases known : Language.of? (here.child name) with
    | none => rfl
    | some language =>
      cases read : around.read (here.child name).toString with
      | error fault => rfl
      | ok bytes =>
        cases parsed : Xml.parse bytes with
        | error fault => simp [Except.toOption, parsed]
        | ok root =>
          have described : (other.describe (there.child name) language root).1 = _ :=
            (moves.describe_moved name (contained language bytes root known read parsed)).1
          simp [Except.toOption, parsed, described]
  · intro project reports evaluates
    have yields : (around.evaluate file).toOption = some (project, reports) := by
      rw [evaluates]
      rfl
    rw [toOption_evaluate, stands] at yields
    obtain ⟨language, known, yields⟩ := Option.bind_eq_some_iff.mp yields
    obtain ⟨root, sought, described⟩ := Option.map_eq_some_iff.mp yields
    obtain ⟨bytes, read, parsed⟩ := Option.bind_eq_some_iff.mp sought
    have within := (moves.describe_moved name
      (contained language bytes root known (eq_ok_of_toOption read) (eq_ok_of_toOption parsed))).2
    rwa [described] at within

end Moves
/-- A project that names its sources by a pattern and refers to another one. -/
def movedContent : List (Location × Entry) := [
  ([], .directory),
  (["p.csproj"], .file (Text.Utf8.ofString
    "<P><Compile Include='*.cs'/><ProjectReference Include='sub/q.csproj'/></P>")),
  (["x.cs"], .file [])]

/-- The same project in a folder of any name. -/
def movedSample (folder : String) : Surroundings where
  tree := {
    entries := movedContent.map fun (rest, entry) => (folder :: rest, entry)
    nodup := by simp [movedContent] }
  directory := []
  home := "/"

theorem entry?_movedSample (folder : String) (rest : Location) :
    FileTree.entry? (movedSample folder).tree (folder :: rest) =
      (movedContent.find? fun entry => entry.1 = rest).map Prod.snd := by
  have found : ((fun entry : Location × Entry => decide (entry.1 = folder :: rest)) ∘
      fun (rest, entry) => (folder :: rest, entry)) = fun entry => decide (entry.1 = rest) := by
    funext entry
    simp
  unfold entry? movedSample
  dsimp only
  rw [if_neg (List.cons_ne_nil _ _), List.find?_map, found, Option.map_map]
  rfl

theorem holds_movedSample {folder : String} (legal : Legal folder) :
    (movedSample folder).Holds ⟨.root, [folder]⟩ where
  absolute := rfl
  filled := List.cons_ne_nil _ _
  legal := List.forall_mem_singleton.mpr legal
  standing := by
    intro above prefixed
    rcases List.prefix_cons_iff.mp prefixed with rfl | ⟨rest, rfl, short⟩
    · rfl
    · rw [List.prefix_nil.mp short, entry?_movedSample]
      rfl
  named := by
    have names : ∀ entry ∈ movedContent, ∀ name ∈ entry.1, Legal name := by
      unfold Legal
      decide +kernel
    intro rest name stands
    have below : FileTree.entry? (movedSample folder).tree (folder :: (rest ++ [name])) ≠ none := stands
    rw [entry?_movedSample] at below
    obtain ⟨entry, found⟩ := Option.ne_none_iff_exists'.mp below
    obtain ⟨listed, sought, _⟩ := Option.map_eq_some_iff.mp found
    have same : listed.1 = rest ++ [name] := by simpa using List.find?_some sought
    exact names listed (List.mem_of_find?_eq_some sought) name (by simp [same])

/-- The folders `a` and `b c` hold the same project, and it is evaluated to the same. -/
theorem evaluate_moved_sample :
    ∃ around other : Surroundings, ∃ here there file elsewhere : Path, ∃ project : Project,
      here.toString = "/a" ∧ there.toString = "/b c" ∧ around.Enclosed here there ∧
      (around.evaluate file).toOption.map Prod.fst = some project ∧
      project.documents = [⟨.root, ["a", "x.cs"]⟩] ∧ project.references = [⟨.root, ["a", "sub", "q.csproj"]⟩] ∧
      (other.evaluate elsewhere).toOption.map Prod.fst = some (moveProject here there project) := by
  let around := movedSample "a"
  let other := movedSample "b c"
  let here : Path := ⟨.root, ["a"]⟩
  let there : Path := ⟨.root, ["b c"]⟩
  let project : Project := ⟨⟨.root, ["a", "p.csproj"]⟩, "p", some .csharp, [⟨.root, ["a", "x.cs"]⟩],
    [⟨.root, ["a", "sub", "q.csproj"]⟩]⟩
  have moves : Moves around other here there := {
    source := holds_movedSample (by unfold Legal; decide)
    goal := holds_movedSample (by unfold Legal; decide)
    content := fun rest => (entry?_movedSample "b c" rest).trans (entry?_movedSample "a" rest).symm
    readable := by decide
    alsoReadable := by decide }
  have isFolder : here.IsFolder := moves.source.toIsFolder
  have also : there.IsFolder := moves.goal.toIsFolder
  have linkless : around.Linkless := by
    unfold Linkless
    decide +kernel
  have plain : around.LinkFree here := fun rest target => linkless.plain _ target
  have roomy : around.Roomy here there := by
    have short : ∀ location ∈ around.tree.entries.map Prod.fst, ∀ folder ∈ [here, there],
        (Text.Utf8.ofString (Path.mk folder.anchor (folder.parts ++ location.tail)).toString).length <
          pathLimit := by decide +kernel
    intro names stands folder member
    have room := short (["a"] ++ names) ((entry?_ne_none_iff (List.cons_ne_nil _ _)).mp stands) folder member
    rwa [List.singleton_append, List.tail_cons] at room
  have enclosed : around.Enclosed here there := enclosed_of_plain plain roomy isFolder also
  have inside : around.Inside here there (Path.trail ["p.csproj"]) := by
    refine (enclosed [] (by simp) trivial).2 "p.csproj" ?_
    unfold Legal
    decide
  have pattern : around.Contained here there "*.cs" := by
    refine contained_of_names plain roomy isFolder also (by decide) (by decide) (by decide) (by decide)
      [] (by simp) (by decide) ?_
    have pieces : Wildcard.patternTail "*.cs" = ["*.cs"] := by decide
    rw [pieces]
    exact List.forall_mem_singleton.mpr (.inl (by decide))
  have reference : around.Contained here there "sub/q.csproj" := .plain (by decide) (by decide) (by
    unfold Path.StaysBelow
    decide)
  have evaluates : (around.evaluate ⟨.root, ["a", "p.csproj"]⟩).toOption.map Prod.fst = some project := by
    decide +kernel
  refine ⟨around, other, here, there, ⟨.root, ["a", "p.csproj"]⟩, ⟨.root, ["b c", "p.csproj"]⟩, project, by decide,
    by decide, enclosed, evaluates, rfl, rfl, ?_⟩
  have contained : ∀ language bytes root, Language.of? (here.child "p.csproj") = some language →
      around.read (here.child "p.csproj").toString = .ok bytes → Xml.parse bytes = .ok root →
      around.ContainedProject here there language root := by
    intro language bytes root _ read parsed
    have texts : ((around.read (here.child "p.csproj").toString).toOption.bind fun bytes =>
        (Xml.parse bytes).toOption).map (fun root => decide (
          (∀ item ∈ root.named (itemName root "Compile"), ∀ list ∈ ["Include", "Exclude", "Remove"],
            ∀ part ∈ ItemList.parts (attributeText item list), part = "*.cs") ∧
          ∀ item ∈ root.named (itemName root "ProjectReference"),
            ∀ part ∈ ItemList.parts (attributeText item "Include"), part = "sub/q.csproj")) = some true := by
      decide +kernel
    rw [read] at texts
    change (Xml.parse bytes).toOption.map _ = _ at texts
    rw [parsed] at texts
    obtain ⟨items, references⟩ := of_decide_eq_true (Option.some.inj texts)
    constructor
    · exact fun item listed list named part member => items item listed list named part member ▸ pattern
    · exact fun item listed part member => references item listed part member ▸ reference
    · exact fun _ _ _ => enclosed
  have file : around.projectKey ⟨.root, ["a", "p.csproj"]⟩ = here.child "p.csproj" := by decide
  have elsewhere : other.projectKey ⟨.root, ["b c", "p.csproj"]⟩ = there.child "p.csproj" := by decide
  rw [(moves.evaluate_moved file elsewhere inside contained).1, evaluates]
  rfl

/-- Under a name with a bracket the folder is taken for a pattern itself, and nothing is found. -/
example : ((movedSample "a[b]").evaluate ⟨.root, ["a[b]", "p.csproj"]⟩).toOption.map (fun found =>
    found.1.documents) = some [] := by decide +kernel

end UsingCensus.Surroundings
