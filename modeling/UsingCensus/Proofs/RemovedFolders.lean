import UsingCensus.Proofs.CompiledFiles
import UsingCensus.Proofs.DefaultItems
import UsingCensus.Proofs.ItemPieces
import UsingCensus.Proofs.MovedProjects

/-!
Removal of a folder by a pattern. Main statement: an item that removes everything below a folder takes away just
those of the folder's default items that are files and whose names are not hidden, whatever else is compiled.
-/
namespace UsingCensus

/-! ### The pattern -/

namespace ItemList

variable {folder : String}

/-- A folder's name that an item list takes as it stands. -/
structure PlainName (name : String) : Prop where
  legal : FileTree.Legal name
  letters : ∀ c ∈ name.toList, c ≠ ';' ∧ c ≠ '\\' ∧ c ≠ '*' ∧ c ≠ '?' ∧ c ≠ '['
  unspaced : ∀ c ∈ name.toList.head?, Text.isBlank c = false
  evaluated : isUnevaluated name.toList = false

theorem isUnevaluated_append {first second : List Char} (plain : isUnevaluated first = false)
    (open_ : second.head? ≠ some '(') (also : isUnevaluated second = false) :
    isUnevaluated (first ++ second) = false := by
  rw [Bool.eq_false_iff, Ne, isUnevaluated_iff] at plain also ⊢
  exact mt (refers_append_iff open_).mp (not_or.mpr ⟨plain, also⟩)

theorem parts_folder (plain : PlainName folder) : parts (folder ++ "\\**") = [folder ++ "/**"] := by
  have filled : folder.toList ≠ [] := fun empty =>
    (Path.isPart_iff.mp plain.legal.1).1 (String.toList_eq_nil_iff.mp empty)
  have spelled : (folder ++ "\\**").toList = folder.toList ++ ['\\', '*', '*'] := String.toList_append
  have whole : ';' ∉ folder.toList ++ ['\\', '*', '*'] := by
    intro inside
    rcases List.mem_append.mp inside with own | behind
    · exact (plain.letters _ own).1 rfl
    · exact absurd behind (by decide)
  have trimmed : Text.trim (folder.toList ++ ['\\', '*', '*']) = folder.toList ++ ['\\', '*', '*'] := by
    refine Text.trim_eq_self ?_ ?_
    · rw [List.head?_append_of_ne_nil _ filled]
      exact plain.unspaced
    · rw [List.getLast?_append_of_ne_nil _ (by simp)]
      simp [Text.isBlank]
  have kept : folder.toList.map (fun c => if c = '\\' then '/' else c) = folder.toList :=
    (List.map_congr_left fun c own => if_neg (plain.letters c own).2.1).trans (List.map_id' _)
  unfold parts
  rw [spelled, Text.splitAt_of_not_mem whole, List.map_singleton, trimmed, List.map_append, kept,
    List.filter_cons_of_pos (by simp [filled]), List.filter_nil, List.map_singleton, String.ofList_append,
    String.ofList_toList]
  rfl

end ItemList

theorem Path.IsKey.parent {path : Path} (key : path.IsKey) : path.parent.IsKey :=
  ⟨key.proper.parent, key.absolute, 0, path.parts.dropLast, rfl,
    fun inside => (key.named _ (List.dropLast_subset _ inside)).2 rfl, fun _ => rfl⟩

theorem Path.IsFolder.normal_eq {folder : Path} (isFolder : folder.IsFolder) : folder.normal = folder := by
  have stays : Path.StaysBelow [] := by
    unfold Path.StaysBelow
    decide
  simpa [Path.normalParts] using isFolder.normal_append stays

namespace Wildcard

theorem below_append_name {text name : String} (named : name ≠ "") (rest : String) :
    below text (name ++ rest) = below text name ++ rest := by
  have longer : name ++ rest ≠ "" := fun empty => named (String.append_eq_empty_iff.mp empty).1
  unfold below
  simp only [named, longer, decide_false, Bool.false_and, Bool.false_eq_true, if_false]
  split
  · rfl
  · split <;> exact String.append_assoc.symm

end Wildcard

namespace Surroundings

open FileTree Wildcard ProjectFile ItemList

variable {around : Surroundings} {directory document : Path} {base : Location} {folder name text : String}
  {folders : List String}

theorem below_toString (absolute : directory.isAbsolute = true) (proper : directory.Proper) (step : IsStep name) :
    below directory.toString name = (directory.child name).toString := by
  have anchored : directory.anchor ≠ .here := by simpa [Path.isAbsolute] using absolute
  exact (Path.toString_child_eq_below proper (fun lone => anchored lone.1) step).symm

theorem removedBy_folder (plain : PlainName folder) (proper : directory.Proper)
    (isFolder : (directory.child folder).IsFolder) (bare : isPattern directory.toString = false) {item : Xml.Element}
    (remove : attributeText item "Remove" = folder ++ "\\**") :
    around.removedBy directory item =
      ((sortNames (around.findParts (directory.child folder).toString ["**"])).filter around.isFile).map
        fun found => (Path.ofString found).normal := by
  have named := (Path.isPart_iff.mp plain.legal.1).1
  have absolute : directory.isAbsolute = true := isFolder.absolute
  have spelled := below_toString absolute proper plain.legal.isStep
  have evaluated : isUnevaluated (folder ++ "/**").toList = false := by
    rw [String.toList_append]
    exact isUnevaluated_append plain.evaluated (by decide) (by decide)
  have wildcard : hasWildcard (folder ++ "/**") = true := by
    rw [hasWildcard, String.toList_append, List.any_append, Bool.or_eq_true]
    exact .inr (by decide)
  have relative : Text.startsIn (folder ++ "/**") "/" = false := by
    rw [Bool.eq_false_iff]
    intro rooted
    obtain ⟨c, letters, first⟩ := List.exists_cons_of_ne_nil (mt String.toList_eq_nil_iff.mp named)
    obtain ⟨rest, whole⟩ := List.isPrefixOf_iff_prefix.mp rooted
    rw [String.toList_append, first] at whole
    have slash : '/' = c := (List.cons.inj whole).1
    exact plain.legal.2.1 (first ▸ slash ▸ List.mem_cons_self)
  have pattern : below directory.toString (folder ++ "/**") = below (directory.child folder).toString "**" := by
    have behind := below_behind isFolder (List.mem_cons_self : "" ∈ ["", "/"]) "**"
    rw [String.append_empty, String.append_assoc] at behind
    rw [below_append_name named, spelled, behind]
    rfl
  have plainChild : isPattern (directory.child folder).toString = false := by
    rw [← spelled, isPattern, List.any_eq_false]
    intro c inside
    rcases mem_below inside with front | slash | own
    · exact List.any_eq_false.mp bare c front
    · subst slash
      decide
    · have letter := plain.letters c own
      simp [letter]
  have cut : plainTail "**" = "" ∧ patternTail "**" = ["**"] := by decide +kernel
  rw [removedBy, remove, itemPaths, parts_folder plain, List.flatMap_singleton, partPaths, evaluated, wildcard,
    relative]
  simp only [Bool.false_eq_true, if_false, if_true]
  rw [expand, pattern, splitPattern_below isFolder plainChild, cut.1, cut.2, String.append_empty]

/-! ### What the pattern finds -/

theorem mem_findParts_all {found : String} : found ∈ around.findParts text ["**"] ↔
    found = below text "" ∨ ∃ inner ∈ around.descend false pathLimit text, found = below text inner := by
  simp [findParts, findPart]

/-- Whatever is found below a text is spelled with names of the tree that are not hidden. -/
theorem descends_of_mem_descend (lawful : around.Lawful) {foldersOnly : Bool} {fuel : Nat} {inner : String}
    (member : inner ∈ around.descend foldersOnly fuel text) :
    Descends (fun name => Legal name ∧ isHidden name = false) inner := by
  induction fuel generalizing text inner with
  | zero => cases member
  | succ fewer ih =>
    rw [descend] at member
    obtain ⟨name, listed, member⟩ := List.mem_flatMap.mp member
    obtain ⟨listed, shown⟩ := List.mem_filter.mp listed
    rw [namesAt_eq] at listed
    obtain ⟨_, _, _, present⟩ := exists_of_mem_namesOf (List.mem_of_mem_filter listed)
    have named : Legal name ∧ isHidden name = false := ⟨(lawful.nameable present).1, by simpa using shown⟩
    rcases List.mem_cons.mp member with rfl | later
    · exact .one named
    · obtain ⟨deeper, found, rfl⟩ := List.mem_map.mp later
      exact .more named (ih found)

theorem intercalate_within (isFolder : directory.IsFolder) {place : List String} (some : place ≠ []) :
    directory.toString ++ "/" ++ String.intercalate "/" place = (directory.within place).toString := by
  have whole : (directory.within place).toString = directory.toString ++ Path.trail place :=
    isFolder.toString_append place
  have behind : Path.trail place = "/" ++ String.intercalate "/" place := by
    unfold Path.trail Path.toString
    rw [if_neg some, if_neg fun both => some both.2]
    rfl
  rw [whole, behind, String.append_assoc]

/-- A file that lies below a directory without hidden names in between is found, if there is fuel enough. -/
theorem mem_descend (lawful : around.Lawful) (reaches : around.Reaches text base) {fuel depth : Nat}
    (found : around.Found (fun _ _ => true) depth text base folders name) (few : folders.length < fuel)
    (shown : ∀ part ∈ folders ++ [name], isHidden part = false) :
    String.intercalate "/" (folders ++ [name]) ∈ around.descend false fuel text := by
  have listed {text : String} {base : Location} {part : String} (reaches : around.Reaches text base)
      (short : (Text.Utf8.ofString text).length ≤ pathLimit) (present : around.tree.entry? (base ++ [part]) ≠ none) :
      part ∈ around.namesAt false text := by
    rw [namesAt_eq, if_neg reaches.filled]
    exact List.mem_filter.mpr ⟨reaches.mem_namesOf_iff.mpr ⟨short, present⟩, rfl⟩
  -- each folder is listed in the one before it, whose path is not too long
  induction folders generalizing text base fuel depth with
  | nil =>
    obtain ⟨fewer, rfl⟩ := Nat.exists_eq_succ_of_ne_zero (Nat.ne_of_gt few)
    have present := found.present
    rw [List.append_nil] at present
    rw [descend]
    refine List.mem_flatMap.mpr ⟨name, List.mem_filter.mpr ⟨listed reaches found.short present, ?_⟩, List.mem_cons_self⟩
    rw [shown name (by simp)]
    rfl
  | cons folder more ih =>
    obtain ⟨fewer, rfl⟩ := Nat.exists_eq_succ_of_ne_zero (Nat.ne_of_gt (Nat.zero_lt_of_lt few))
    obtain ⟨⟨_, _, stands⟩, later⟩ := found_cons_iff.mp found
    have present : around.tree.entry? (base ++ [folder]) ≠ none := by
      rw [stands]
      exact Option.some_ne_none _
    have nameable := lawful.nameable present
    have short := Nat.le_trans (length_le_length_foldl_below reaches.filled (folder :: more)) found.short
    obtain ⟨own, others⟩ := List.forall_mem_cons.mp shown
    have inner := ih (reaches.child nameable stands) later (Nat.lt_of_succ_lt_succ few) others
    rw [descend]
    refine List.mem_flatMap.mpr ⟨folder, List.mem_filter.mpr ⟨listed reaches short present, by rw [own]; rfl⟩,
      List.mem_cons_of_mem _ (List.mem_map.mpr ⟨_, inner, ?_⟩)⟩
    rw [below_of_legal nameable.1, List.cons_append, String.intercalate_cons_of_ne_nil (by simp)]

/-! ### What is removed -/

/-- A pattern for everything below a folder removes a file of the folder if no name in between is hidden and the
path leads to a file. -/
theorem mem_removedBy_folder (lawful : around.Lawful) (plain : PlainName folder) (proper : directory.Proper)
    (isFolder : (directory.child folder).IsFolder) (bare : isPattern directory.toString = false) {item : Xml.Element}
    (remove : attributeText item "Remove" = folder ++ "\\**")
    (reaches : around.Reaches (directory.child folder).toString base) {depth : Nat}
    (found : around.Found (fun _ _ => true) depth (directory.child folder).toString base folders name) :
    (directory.child folder).within (folders ++ [name]) ∈ around.removedBy directory item ↔
      (∀ part ∈ folders ++ [name], isHidden part = false) ∧
        around.isFile ((directory.child folder).within (folders ++ [name])).toString = true := by
  have normal {place : List String} (legal : ∀ part ∈ place, Legal part) :
      (Path.ofString ((directory.child folder).within place).toString).normal =
        (directory.child folder).within place := by
    have deeper : ((directory.child folder).within place).IsFolder := isFolder_append isFolder legal
    rw [Path.ofString_toString deeper.proper]
    exact deeper.normal_eq
  have spelled (inner : String) :
      below (directory.child folder).toString inner = (directory.child folder).toString ++ "/" ++ inner := by
    have behind := below_behind isFolder (List.mem_cons_self : "" ∈ ["", "/"]) inner
    rwa [String.append_empty] at behind
  rw [removedBy_folder plain proper isFolder bare remove]
  simp only [List.mem_map, List.mem_filter, mem_sortNames, mem_findParts_all]
  constructor
  · rintro ⟨text, ⟨rfl | ⟨inner, member, rfl⟩, file⟩, same⟩
    · -- the folder itself, with a slash at its end, is nothing that lies in it
      have continues : Path.Continues "/" := .inr ⟨"", rfl⟩
      have nothing : (Path.ofString "/").parts = [] := rfl
      rw [spelled, String.append_empty, isFolder.ofString_append continues, nothing, List.append_nil] at same
      have none : (directory.child folder).within [] = (directory.child folder).within (folders ++ [name]) := by
        rw [← same]
        simpa [Path.within] using isFolder.normal_eq.symm
      exact absurd (Path.within_injective _ none) (by simp)
    · have descends := descends_of_mem_descend lawful member
      obtain ⟨place, parts, whole⟩ := descends_names isFolder descends
      have text : below (directory.child folder).toString inner = ((directory.child folder).within place).toString := by
        rw [spelled, whole]
        rfl
      rw [text] at file same
      rw [normal fun part own => (parts part own).1] at same
      obtain rfl := Path.within_injective _ same
      exact ⟨fun part own => (parts part own).2, file⟩
  · rintro ⟨shown, file⟩
    have legal (part : String) (own : part ∈ folders ++ [name]) : Legal part := (found.nameable lawful part own).1
    have few : folders.length < pathLimit := by
      have start := length_ofString_pos reaches.filled
      have longer := add_length_le_length_foldl_below reaches.filled fun part own =>
        (Path.isPart_iff.mp (legal part (List.mem_append_left _ own)).1).1
      have short := found.short
      omega
    have inner := mem_descend lawful reaches found few shown
    have some : folders ++ [name] ≠ [] := by simp
    have text : below (directory.child folder).toString (String.intercalate "/" (folders ++ [name])) =
        ((directory.child folder).within (folders ++ [name])).toString := by
      rw [spelled, intercalate_within isFolder some]
    exact ⟨_, ⟨.inr ⟨_, inner, text.symm⟩, file⟩, normal legal⟩

theorem legal_of_locate? (lawful : around.Lawful) (key : directory.IsKey)
    (found : around.locate? true directory.toString = some base) (stands : around.tree.entry? base ≠ none) :
    ∀ part ∈ directory.parts, Legal part := by
  intro part member
  have named : directory.parts ≠ [] := List.ne_nil_of_mem member
  obtain ⟨_, leads⟩ := (seek_toString_eq_ok_iff key.proper).mp (seek_of_locate? found)
  rw [key.proper.steps named] at leads
  obtain ⟨dot, dots⟩ := key.named part member
  exact (lawful part (mem_names_of_follow leads stands part member dot dots)).1

theorem isFolder_child (lawful : around.Lawful) (key : directory.IsKey) (legal : Legal folder)
    (found : around.locate? true directory.toString = some base) (stands : around.tree.entry? base ≠ none) :
    (directory.child folder).IsFolder where
  absolute := key.absolute
  filled := by simp [Path.child]
  legal := List.forall_mem_append.mpr
    ⟨legal_of_locate? lawful key found stands, List.forall_mem_singleton.mpr legal⟩

/-- A default item that lies in a folder of the directory. -/
def IsDefaultIn (around : Surroundings) (directory : Path) (folder : String) (document : Path) : Prop :=
  document ∈ around.defaultItems directory ∧ ∃ place, place ≠ [] ∧ document = (directory.child folder).within place

/-- Of the default items in a folder a pattern for everything below it removes those that lead to files under names
that are not hidden. -/
theorem mem_removedBy_of_default (lawful : around.Lawful) (key : directory.IsKey) (plain : PlainName folder)
    (bare : isPattern directory.toString = false) {item : Xml.Element}
    (remove : attributeText item "Remove" = folder ++ "\\**") (default : around.IsDefaultIn directory folder document) :
    document ∈ around.removedBy directory item ↔
      isHidden document.name = false ∧ around.isFile document.toString = true := by
  obtain ⟨default, place, some, rfl⟩ := default
  have leads : around.isDirectory directory.toString = true := by
    by_contra absent
    rw [defaultItems_eq_nil (Bool.not_eq_true _ ▸ absent)] at default
    cases default
  obtain ⟨base, found, stands⟩ := isDirectory_iff.mp leads
  have visited := visited_toString key.proper found stands
  obtain ⟨folders, name, same, has⟩ := (mem_defaultItems_iff lawful visited).mp default
  rw [Path.within_child] at same
  have parts := Path.within_injective _ same
  cases folders with
  | nil => exact absurd (List.cons.inj parts).2 some
  | cons first more =>
    obtain ⟨rfl, rfl⟩ := List.cons.inj parts
    obtain ⟨⟨_, _, inner⟩, later⟩ := found_cons_iff.mp has.found
    have nameable : Nameable folder := lawful.nameable (by rw [inner]; exact Option.some_ne_none _)
    have reaches := (visited.child nameable inner).toReaches
    rw [below_toString key.absolute key.proper plain.legal.isStep] at reaches later
    have isFolder := isFolder_child lawful key plain.legal found (by rw [stands]; exact Option.some_ne_none _)
    have shown (part : String) (own : part ∈ more) : isHidden part = false :=
      has.compiled.1 part (List.mem_cons_of_mem _ own)
    refine (mem_removedBy_folder lawful plain key.proper isFolder bare remove reaches later).trans ?_
    rw [List.append_eq, Path.name_within, List.forall_mem_append, List.forall_mem_singleton]
    exact ⟨fun ⟨⟨_, own⟩, file⟩ => ⟨own, file⟩, fun ⟨own, file⟩ => ⟨⟨shown, own⟩, file⟩⟩

/-! ### What remains -/

/-- The last item removes what it removes, whatever includes it. -/
theorem mem_documents_of_last {path : Path} {language : Language} {root item : Xml.Element} {items : List Xml.Element}
    (last : root.named (itemName root "Compile") = items ++ [item]) :
    document ∈ (around.describe path language root).1.documents ↔
      (around.Remains path.parent (around.startingDocuments language path.parent root) items document ∨
        document ∈ around.includedBy path.parent item) ∧ document ∉ around.removedBy path.parent item := by
  rw [mem_documents_iff, last, ← mem_foldl_applyItem_iff, List.foldl_append, List.foldl_cons, List.foldl_nil, applyItem,
    List.mem_filter, List.mem_append, mem_foldl_applyItem_iff, decide_eq_true_iff]

theorem remains_of_start {start : List Path} {items : List Xml.Element} (member : document ∈ start)
    (kept : ∀ item ∈ items, document ∉ around.removedBy directory item) :
    around.Remains directory start items document := by
  refine ⟨0, member, fun j _ gone => ?_⟩
  cases j with
  | zero => cases gone
  | succ j =>
    rw [removal] at gone
    cases here : items[j]? with
    | none =>
      rw [here] at gone
      cases gone
    | some item =>
      rw [here] at gone
      exact kept item (List.mem_of_getElem? here) gone

/-- What becomes of a folder's default items in the documents of a project whose last compile item removes the folder
by a pattern: those stay that lead to no file, and those with hidden names. -/
structure RemovesFolder (around : Surroundings) (directory : Path) (folder : String) (start : List Path)
    (items : List Xml.Element) (item : Xml.Element) (documents : List Path) : Prop where
  mem_iff : ∀ document, around.IsDefaultIn directory folder document → (document ∈ documents ↔
    (around.Remains directory start items document ∨ document ∈ around.includedBy directory item) ∧
      (isHidden document.name = true ∨ around.isFile document.toString = false))
  gone : ∀ document, around.IsDefaultIn directory folder document → isHidden document.name = false →
    around.isFile document.toString = true → document ∉ documents
  kept : ∀ document, around.IsDefaultIn directory folder document → document ∈ start →
    (∀ other ∈ items, document ∉ around.removedBy directory other) →
    (isHidden document.name = true ∨ around.isFile document.toString = false) → document ∈ documents

theorem removesFolder (lawful : around.Lawful) {path : Path} (key : path.IsKey) (plain : PlainName folder)
    (bare : isPattern path.parent.toString = false) {language : Language} {root item : Xml.Element}
    {items : List Xml.Element} (last : root.named (itemName root "Compile") = items ++ [item])
    (remove : attributeText item "Remove" = folder ++ "\\**") :
    around.RemovesFolder path.parent folder (around.startingDocuments language path.parent root) items item
      (around.describe path language root).1.documents := by
  have stays {document : Path} (default : around.IsDefaultIn path.parent folder document) :
      document ∉ around.removedBy path.parent item ↔
        isHidden document.name = true ∨ around.isFile document.toString = false := by
    rw [mem_removedBy_of_default lawful key.parent plain bare remove default, not_and_or, Bool.not_eq_false,
      Bool.not_eq_true]
  refine ⟨fun document default => ?_, fun document default shown file member => ?_,
    fun document default member kept odd => ?_⟩
  · rw [mem_documents_of_last last, stays default]
  · rcases (stays default).mp ((mem_documents_of_last last).mp member).2 with hidden | missing
    · rw [shown] at hidden
      cases hidden
    · rw [file] at missing
      cases missing
  · exact (mem_documents_of_last last).mpr ⟨.inl (remains_of_start member kept), (stays default).mpr odd⟩

/-- If the last compile item of a project removes everything below a folder, just those of the folder's default items
stay that a pattern does not find. The path of the project must not be taken for a pattern itself. -/
theorem evaluate_removesFolder {file : Path} {project : Project} {reports : List String} (lawful : around.Lawful)
    (settled : around.Settled) (proper : file.Proper) (evaluates : around.evaluate file = .ok (project, reports)) :
    ∃ language bytes root, Language.of? (around.projectKey file) = some language ∧
      around.read (around.projectKey file).toString = .ok bytes ∧ Xml.parse bytes = .ok root ∧
      ∀ folder items item, PlainName folder → isPattern (around.projectKey file).parent.toString = false →
        root.named (itemName root "Compile") = items ++ [item] → attributeText item "Remove" = folder ++ "\\**" →
        around.RemovesFolder (around.projectKey file).parent folder
          (around.startingDocuments language (around.projectKey file).parent root) items item project.documents := by
  have key := isKey_projectKey settled proper
  have yields := toOption_evaluate around file
  rw [evaluates] at yields
  obtain ⟨language, known, described⟩ := Option.bind_eq_some_iff.mp yields.symm
  obtain ⟨root, parsed, described⟩ := Option.map_eq_some_iff.mp described
  obtain ⟨bytes, read, parsed⟩ := Option.bind_eq_some_iff.mp parsed
  refine ⟨language, bytes, root, known, eq_ok_of_toOption read, eq_ok_of_toOption parsed,
    fun folder items item plain bare last remove => ?_⟩
  have same : (around.describe (around.projectKey file) language root).1 = project := congrArg Prod.fst described
  rw [← same]
  exact removesFolder lawful key plain bare last remove

/-- A project that removes a folder with a hidden source and one that is not hidden. -/
def removedSample : Surroundings where
  tree := [
    (["r", "p.csproj"], "<Project Sdk='x'><ItemGroup><Compile Remove='D\\**'/></ItemGroup></Project>"),
    (["r", "D", ".h.cs"], ""), (["r", "D", "v.cs"], "")].foldl
      (fun tree (location, text) => tree.plant location (.file (Text.Utf8.ofString text))) FileTree.empty
  directory := ["r"]
  home := "/r"

/-- The hidden source stays, the other does not. -/
theorem evaluate_removesFolder_sample :
    ∃ project reports, removedSample.evaluate ⟨.here, ["p.csproj"]⟩ = .ok (project, reports) ∧
      ⟨.root, ["r", "D", ".h.cs"]⟩ ∈ project.documents ∧ ⟨.root, ["r", "D", "v.cs"]⟩ ∉ project.documents := by
  have evaluates : (removedSample.evaluate ⟨.here, ["p.csproj"]⟩).toOption.isSome = true := by decide +kernel
  obtain ⟨⟨project, reports⟩, yields⟩ := Option.isSome_iff_exists.mp evaluates
  have evaluates := eq_ok_of_toOption yields
  have lawful : removedSample.Lawful := by
    unfold Lawful Nameable Legal
    decide +kernel
  have settled : removedSample.Settled := settled_of_directory rfl (by unfold Legal; decide) (by decide +kernel)
  have plain : PlainName "D" := ⟨by unfold Legal; decide, by simp, by simp [Text.isBlank], by decide⟩
  have key : removedSample.projectKey ⟨.here, ["p.csproj"]⟩ = ⟨.root, ["r", "p.csproj"]⟩ := by decide +kernel
  have removes := evaluate_removesFolder lawful settled (by unfold Path.Proper; decide) evaluates
  rw [key] at removes
  obtain ⟨language, bytes, root, known, read, parsed, removes⟩ := removes
  have texts : ((removedSample.read "/r/p.csproj").toOption.bind fun bytes =>
      (Xml.parse bytes).toOption).map (fun root => decide (
        (root.named (itemName root "Compile")).map (attributeText · "Remove") = ["D\\**"] ∧
        isSdkStyle root = true ∧ defaultItemsEnabled root = true)) = some true := by
    decide +kernel
  have text : (Path.mk .root ["r", "p.csproj"]).toString = "/r/p.csproj" := by decide
  rw [text] at read
  rw [read] at texts
  change (Xml.parse bytes).toOption.map _ = _ at texts
  rw [parsed] at texts
  obtain ⟨compiles, sdk, enabled⟩ := of_decide_eq_true (Option.some.inj texts)
  obtain ⟨item, last, remove⟩ := List.map_eq_singleton_iff.mp compiles
  have csharp : language = .csharp := Option.some.inj (known.symm.trans (by decide))
  have start : removedSample.startingDocuments language ⟨.root, ["r"]⟩ root =
      removedSample.defaultItems ⟨.root, ["r"]⟩ := by
    simp [startingDocuments, csharp, sdk, enabled]
  have leads : removedSample.locate? true (Path.mk .root ["r"]).toString = some ["r"] := by decide +kernel
  have visited := visited_toString (by unfold Path.Proper; decide) leads (by decide +kernel)
  have standing : ∀ place ∈ ["D"].inits, removedSample.tree.entry? (["r"] ++ place) = some .directory := by
    decide +kernel
  have inside : ∀ name ∈ [".h.cs", "v.cs"],
      removedSample.IsDefaultIn ⟨.root, ["r"]⟩ "D" ⟨.root, ["r", "D", name]⟩ := by
    have files : ∀ name ∈ [".h.cs", "v.cs"], isSource name = true ∧
        removedSample.tree.entry? ["r", "D", name] = some (.file []) ∧
          removedSample.isDirectory (below (below "/r" "D") name) = false := by
      decide +kernel
    intro name listed
    obtain ⟨source, stands, noLink⟩ := files name listed
    refine ⟨(mem_defaultItems_iff lawful visited).mpr ⟨["D"], name, rfl, by unfold Compiled; decide, source,
      entered_always 0 _, fun place prefixed => standing place ((List.mem_inits _ _).mpr prefixed), by decide, ?_, ?_,
      noLink⟩, [name], by simp, rfl⟩
    · exact fun missing => nomatch missing.symm.trans stands
    · exact fun directory => nomatch directory.symm.trans stands
  have removal := removes "D" [] item plain (by decide) last remove
  refine ⟨project, reports, evaluates, removal.kept _ (inside _ (by decide)) ?_ (by simp) (.inl (by decide)),
    removal.gone _ (inside _ (by decide)) (by decide) (by decide +kernel)⟩
  exact start ▸ (inside ".h.cs" (by decide)).1

end Surroundings
end UsingCensus
