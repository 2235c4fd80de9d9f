import Mathlib.Logic.Relation
import UsingCensus.Proofs.Correspondence
import UsingCensus.Proofs.ItemPieces

/-!
Spellings of one path. Main statements: however relative parts of item lists are spelled, the project is the same; and
what a part stands for is excluded and removed under every spelling.
-/
namespace UsingCensus

namespace ItemList

/-- The components of the part in a piece, between its slashes. -/
def components (piece : List Char) : List (List Char) := Text.splitAt '/' (partOf piece)

def Relative : List (List Char) → Prop
  | [] => False
  | first :: _ => first ≠ []

structure Verbatim (component : List Char) : Prop where
  star : '*' ∉ component
  question : '?' ∉ component
  evaluated : ¬ Refers component

/-- A folder to enter and leave again. -/
structure Detour (name : List Char) : Prop where
  named : name ≠ [] ∧ name ≠ ['.']
  down : name ≠ ['.', '.']
  verbatim : Verbatim name

/-- One more component that leads nowhere, or two: an empty one after another, the current directory, or a detour. -/
inductive Longer : List (List Char) → List (List Char) → Prop where
  | doubled {before after : List (List Char)} : before ≠ [] → Relative (before ++ after) →
      Longer (before ++ after) (before ++ [] :: after)
  | here {before after : List (List Char)} : Relative (before ++ after) →
      Longer (before ++ after) (before ++ ['.'] :: after)
  | around {before after : List (List Char)} {name : List Char} : Detour name → Relative (before ++ after) →
      Longer (before ++ after) (before ++ name :: ['.', '.'] :: after)

/-- Pieces that spell the same relative path, without wildcards and references. -/
structure Spelled (piece other : List Char) : Prop where
  relative : Relative (components piece)
  verbatim : ∀ component ∈ components piece, Verbatim component
  path : Relation.EqvGen Longer (components piece) (components other)

variable {before after list others : List (List Char)} {piece other name component : List Char}

/-! ### What spellings share -/

/-- The components that name something or lead up. -/
def namesOf (list : List (List Char)) : List String := (list.map String.ofList).filter Path.isPart

theorem namesOf_append : namesOf (before ++ after) = namesOf before ++ namesOf after := by
  simp [namesOf]

theorem namesOf_detour (detour : Detour name) :
    namesOf (name :: ['.', '.'] :: after) = String.ofList name :: ".." :: namesOf after := by
  have isName : Path.isPart (String.ofList name) = true := by
    refine Path.isPart_iff.mpr ⟨fun empty => detour.named.1 ?_, fun here => detour.named.2 ?_⟩
    · simpa using congrArg String.toList empty
    · simpa using congrArg String.toList here
  simp only [namesOf, List.map_cons, List.filter_cons, isName, if_true]
  rfl

/-- Two lists of components that lead from everywhere to the same place, and are of the same kind. -/
structure Agree (list others : List (List Char)) : Prop where
  relative : Relative others ↔ Relative list
  verbatim : (∀ component ∈ others, Verbatim component) ↔ ∀ component ∈ list, Verbatim component
  names : ∀ anchored done, (namesOf others).foldl (Path.pushPart anchored) done =
    (namesOf list).foldl (Path.pushPart anchored) done

theorem verbatim_of_dots {dots : List Char} (known : dots ∈ [[], ['.'], ['.', '.']]) : Verbatim dots := by
  have all : ∀ dots ∈ [[], ['.'], ['.', '.']], '*' ∉ dots ∧ '?' ∉ dots ∧ ¬ Refers dots := by decide
  obtain ⟨star, question, evaluated⟩ := all dots known
  exact ⟨star, question, evaluated⟩

theorem forall_verbatim_insert (verbatim : Verbatim name) :
    (∀ component ∈ before ++ name :: after, Verbatim component) ↔
      ∀ component ∈ before ++ after, Verbatim component := by
  rw [List.forall_mem_append, List.forall_mem_append, List.forall_mem_cons]
  exact and_congr_right fun _ => and_iff_right verbatim

theorem relative_insert (started : before ≠ [] ∨ name ≠ []) (relative : Relative (before ++ after)) :
    Relative (before ++ name :: after) := by
  cases before with
  | nil => exact started.resolve_left (absurd rfl)
  | cons first rest => exact relative

theorem agree_of_longer (longer : Longer list others) : Agree list others := by
  cases longer with
  | @doubled before after started relative =>
    refine ⟨iff_of_true (relative_insert (.inl started) relative) relative,
      forall_verbatim_insert (verbatim_of_dots (by simp)), fun anchored done => ?_⟩
    rw [namesOf_append, namesOf_append]
    rfl
  | @here before after relative =>
    refine ⟨iff_of_true (relative_insert (.inr (by simp)) relative) relative,
      forall_verbatim_insert (verbatim_of_dots (by simp)), fun anchored done => ?_⟩
    rw [namesOf_append, namesOf_append]
    rfl
  | @around before after name detour relative =>
    refine ⟨iff_of_true (relative_insert (.inr detour.named.1) (relative_insert (.inr (by simp)) relative)) relative,
      (forall_verbatim_insert detour.verbatim).trans (forall_verbatim_insert (verbatim_of_dots (by simp))),
      fun anchored done => ?_⟩
    have down : String.ofList name ≠ ".." := fun up => detour.down (by simpa using congrArg String.toList up)
    rw [namesOf_append, namesOf_append, namesOf_detour detour, List.foldl_append, List.foldl_append, List.foldl_cons,
      List.foldl_cons]
    simp [Path.pushPart, down]

theorem agree_of_eqvGen (path : Relation.EqvGen Longer list others) : Agree list others := by
  induction path with
  | rel _ _ longer => exact agree_of_longer longer
  | refl _ => exact ⟨.rfl, .rfl, fun _ _ => rfl⟩
  | symm _ _ _ ih => exact ⟨ih.relative.symm, ih.verbatim.symm, fun anchored done => (ih.names anchored done).symm⟩
  | trans _ _ _ _ _ first second =>
    exact ⟨second.relative.trans first.relative, second.verbatim.trans first.verbatim,
      fun anchored done => (second.names anchored done).trans (first.names anchored done)⟩

theorem Spelled.symm (spelled : Spelled piece other) : Spelled other piece :=
  have agree := agree_of_eqvGen spelled.path
  ⟨agree.relative.mpr spelled.relative, agree.verbatim.mpr spelled.verbatim, .symm _ _ spelled.path⟩

/-! ### What spellings stand for -/

theorem exists_cons_of_relative {part : List Char} (relative : Relative (Text.splitAt '/' part)) :
    ∃ c rest, part = c :: rest ∧ c ≠ '/' := by
  cases part with
  | nil => exact absurd rfl relative
  | cons c rest =>
    refine ⟨c, rest, rfl, ?_⟩
    rintro rfl
    exact absurd rfl relative

theorem refers_joinWith_iff (parts : List (List Char)) :
    Refers (Text.joinWith '/' parts) ↔ ∃ part ∈ parts, Refers part := by
  induction parts with
  | nil => simp [Text.joinWith, refers_nil]
  | cons part rest ih =>
    cases rest with
    | nil => simp [Text.joinWith]
    | cons next more =>
      rw [Text.joinWith_cons_of_ne_nil (by simp), refers_append_iff (by simp), refers_cons_iff, ih]
      simp [marks]

theorem mem_partOf_iff {c : Char} (different : c ≠ '/') :
    c ∈ partOf piece ↔ ∃ component ∈ components piece, c ∈ component := by
  rw [components, ← Text.mem_joinWith_iff different, Text.joinWith_splitAt]

theorem hasWildcard_eq_false (verbatim : ∀ component ∈ components piece, Verbatim component) :
    hasWildcard (String.ofList (partOf piece)) = false := by
  refine List.any_eq_false.mpr fun c member => ?_
  rw [String.toList_ofList] at member
  intro wild
  rcases (by simpa using wild : c = '*' ∨ c = '?') with rfl | rfl
  · obtain ⟨component, known, inside⟩ := (mem_partOf_iff (by decide)).mp member
    exact (verbatim component known).star inside
  · obtain ⟨component, known, inside⟩ := (mem_partOf_iff (by decide)).mp member
    exact (verbatim component known).question inside

theorem isUnevaluated_eq_false (verbatim : ∀ component ∈ components piece, Verbatim component) :
    isUnevaluated (partOf piece) = false := by
  rw [Bool.eq_false_iff, Ne, isUnevaluated_iff, ← Text.joinWith_splitAt '/' (partOf piece), refers_joinWith_iff]
  rintro ⟨component, known, refers⟩
  exact (verbatim component known).evaluated refers

end ItemList

namespace Path

open ItemList

variable {piece other : List Char}

/-- Where a piece leads from a directory, if its part is a path. -/
def seenFrom (directory : Path) (piece : List Char) : Path := locate directory (String.ofList (partOf piece))

theorem seenFrom_eq (directory : Path) (relative : Relative (components piece)) : seenFrom directory piece =
    ⟨directory.anchor, ((namesOf (components piece)).foldl (pushPart directory.isAbsolute)
      (directory.parts.foldl (pushPart directory.isAbsolute) [])).reverse⟩ := by
  obtain ⟨c, rest, start, noSlash⟩ := exists_cons_of_relative relative
  have anchor : anchorOf (String.ofList (partOf piece)) = .here := by
    simp [anchorOf, start, noSlash]
  have parts : (pieces (String.ofList (partOf piece))).filter isPart = namesOf (components piece) := by
    simp [pieces, namesOf, components]
  rw [seenFrom, locate, ofString, anchor, parts, join, if_neg (by simp [isAbsolute]), normal, normalParts,
    List.foldl_append]
  rfl

/-- Every spelling of a path leads to the same place. -/
theorem seenFrom_eq_of_spelled (spelled : Spelled piece other) (directory : Path) :
    seenFrom directory other = seenFrom directory piece := by
  have names := (agree_of_eqvGen spelled.path).names
  rw [seenFrom_eq directory spelled.relative, seenFrom_eq directory spelled.symm.relative, names]

end Path

namespace ItemList

variable {piece other : List Char} {list others : List (List Char)} {items instead : String}

/-- The same pieces in the same order, but for how relative paths are spelled and for blank ones in between. -/
inductive SamePieces : List (List Char) → List (List Char) → Prop where
  | nil : SamePieces [] []
  | kept {piece other : List Char} {list others : List (List Char)} : partOf other = partOf piece →
      SamePieces list others → SamePieces (piece :: list) (other :: others)
  | spelled {piece other : List Char} {list others : List (List Char)} : Spelled piece other →
      SamePieces list others → SamePieces (piece :: list) (other :: others)
  | dropped {piece : List Char} {list others : List (List Char)} : partOf piece = [] →
      SamePieces list others → SamePieces (piece :: list) others
  | added {other : List Char} {list others : List (List Char)} : partOf other = [] →
      SamePieces list others → SamePieces list (other :: others)

/-- Lists that spell the same. A list that is there stays there, since what an item excludes is not looked at if it
includes nothing at all. -/
structure SameList (items instead : String) : Prop where
  pieces : SamePieces (pieces items) (pieces instead)
  empty : instead = "" ↔ items = ""

theorem SamePieces.refl : (list : List (List Char)) → SamePieces list list
  | [] => .nil
  | _ :: rest => .kept rfl (refl rest)

theorem SameList.refl (items : String) : SameList items items := ⟨.refl _, .rfl⟩

theorem not_refers_of_verbatim (verbatim : ∀ component ∈ components piece, Verbatim component) :
    ¬ Refers piece := by
  rw [← isUnevaluated_partOf_iff, isUnevaluated_eq_false verbatim]
  exact Bool.false_ne_true

theorem refers_congr (same : partOf other = partOf piece) : Refers other ↔ Refers piece := by
  rw [← isUnevaluated_partOf_iff, same, isUnevaluated_partOf_iff]

theorem not_refers_of_blank_part (blank : partOf piece = []) : ¬ Refers piece := fun refers =>
  partOf_ne_nil_of_refers refers blank

theorem SamePieces.reports_eq (same : SamePieces list others) (project : Path) :
    (others.filter fun piece => Refers piece).map (skippedPiece project) =
      (list.filter fun piece => Refers piece).map (skippedPiece project) := by
  induction same with
  | nil => rfl
  | @kept piece other _ _ part _ ih =>
    by_cases refers : Refers piece
    · have also : Refers other := (refers_congr part).mpr refers
      simp [refers, also, ih, skippedPiece, part]
    · have neither : ¬ Refers other := mt (refers_congr part).mp refers
      simpa [refers, neither] using ih
  | spelled spelled _ ih =>
    have verbatim := not_refers_of_verbatim spelled.verbatim
    have also := not_refers_of_verbatim spelled.symm.verbatim
    simpa [verbatim, also] using ih
  | dropped blank _ ih => simpa [not_refers_of_blank_part blank] using ih
  | added blank _ ih => simpa [not_refers_of_blank_part blank] using ih

theorem SameList.reports_eq (same : SameList items instead) (project : Path) :
    reports project instead = reports project items := by
  rw [ItemList.reports_eq, ItemList.reports_eq, same.pieces.reports_eq]

end ItemList

namespace Surroundings

open Xml ProjectFile ItemList

variable {around likewise : Surroundings} {apart : Location → Prop} {directory file path : Path}
  {piece other : List Char} {list others : List (List Char)} {items instead : String} {root respelled : Element}

theorem piecePaths_of_relative (relative : Relative (components piece))
    (verbatim : ∀ component ∈ components piece, Verbatim component) :
    around.piecePaths directory piece = [directory.seenFrom piece] := by
  obtain ⟨c, rest, start, _⟩ := exists_cons_of_relative relative
  rw [piecePaths, if_neg (by simp [start]), partPaths, String.toList_ofList, isUnevaluated_eq_false verbatim,
    hasWildcard_eq_false verbatim]
  rfl

theorem SamePieces.paths_eq (same : SamePieces list others) :
    others.flatMap (around.piecePaths directory) = list.flatMap (around.piecePaths directory) := by
  induction same with
  | nil => rfl
  | kept part _ ih => rw [List.flatMap_cons, List.flatMap_cons, ih, piecePaths, part, piecePaths]
  | spelled spelled _ ih =>
    rw [List.flatMap_cons, List.flatMap_cons, ih, piecePaths_of_relative spelled.relative spelled.verbatim,
      piecePaths_of_relative spelled.symm.relative spelled.symm.verbatim, Path.seenFrom_eq_of_spelled spelled]
  | dropped blank _ ih => rw [List.flatMap_cons, ih, piecePaths, if_pos blank, List.nil_append]
  | added blank _ ih => rw [List.flatMap_cons, ih, piecePaths, if_pos blank, List.nil_append]

theorem itemPaths_eq_of_sameList (same : SameList items instead) :
    around.itemPaths directory instead = around.itemPaths directory items := by
  rw [itemPaths_eq, itemPaths_eq, SamePieces.paths_eq same.pieces]

theorem mem_itemPaths_of_spelled (spelled : Spelled piece other) (member : other ∈ pieces items) :
    directory.seenFrom piece ∈ around.itemPaths directory items := by
  rw [itemPaths_eq, List.mem_flatMap]
  refine ⟨other, member, ?_⟩
  rw [piecePaths_of_relative spelled.symm.relative spelled.symm.verbatim, Path.seenFrom_eq_of_spelled spelled]
  exact List.mem_singleton_self _

/-! ### Projects -/

/-- The same element with the same lists, spelled otherwise. -/
abbrev Respelled (element other : Element) : Prop := Relisted SameList element other

theorem samePaths_of_respelled {element other : Element} (respelled : Respelled element other) :
    around.SamePaths directory element other := fun _ known =>
  itemPaths_eq_of_sameList (respelled.listed (.refl "") known)

theorem sameReports_of_respelled {element other : Element} (respelled : Respelled element other) :
    SameReports path element other := by
  have lists (list : String) (known : list ∈ listNames) := respelled.listed (.refl "") known
  have reported (list : String) (known : list ∈ listNames) :
      ItemList.reports path (attributeText other list) = ItemList.reports path (attributeText element list) :=
    (lists list known).reports_eq path
  refine ⟨?_, reported "Include" (by decide)⟩
  have empty := (lists "Include" (by decide)).empty
  unfold itemReports
  simp only [reported "Include" (by decide), reported "Exclude" (by decide), reported "Remove" (by decide), empty]

theorem not_mem_foldl_applyItem {start : List Path} {elements : List Element} (absent : path ∉ start)
    (never : ∀ item ∈ elements, path ∉ around.includedBy directory item) :
    path ∉ elements.foldl (around.applyItem directory) start := by
  induction elements generalizing start with
  | nil => exact absent
  | cons item rest ih =>
    rw [List.forall_mem_cons] at never
    refine ih (fun member => ?_) never.2
    rcases List.mem_append.mp (List.mem_of_mem_filter member) with before | included
    · exact absent before
    · exact never.1 included

/-- An item includes nothing that it excludes under some spelling. -/
theorem not_mem_includedBy_of_spelled {item : Element} (spelled : Spelled piece other)
    (excluded : other ∈ pieces (attributeText item "Exclude")) :
    directory.seenFrom piece ∉ around.includedBy directory item := fun member =>
  of_decide_eq_true (List.mem_filter.mp member).2 (mem_itemPaths_of_spelled spelled excluded)

/-- What an item removes under some spelling is no document, unless a later one includes it. -/
theorem not_mem_documents_of_spelled {before after : List Element} {item : Element} {language : Language}
    (items : root.named (itemName root "Compile") = before ++ item :: after) (spelled : Spelled piece other)
    (removed : other ∈ pieces (attributeText item "Remove"))
    (never : ∀ later ∈ after, path.parent.seenFrom piece ∉ around.includedBy path.parent later) :
    path.parent.seenFrom piece ∉ (around.describe path language root).1.documents := by
  rw [mem_documents_iff, ← mem_foldl_applyItem_iff, items, List.foldl_append, List.foldl_cons]
  refine not_mem_foldl_applyItem (fun member => ?_) never
  exact of_decide_eq_true (List.mem_filter.mp member).2 (mem_itemPaths_of_spelled spelled removed)

/-- However the relative paths in its item lists are spelled, a project file makes the same project with the same
reports; and a path is included, excluded and removed under each spelling. -/
theorem evaluate_respelled (alike : Alike apart around likewise) (declares : around.Declares file root)
    (instead : likewise.Declares file respelled) (corresponds : Element.Corresponds Respelled root respelled) :
    likewise.evaluate file = around.evaluate file ∧
    ∀ before item after, root.named (itemName root "Compile") = before ++ item :: after →
      ∀ piece other, Spelled piece other →
        let directory := (around.projectKey file).parent
        let document := directory.seenFrom piece
        (other ∈ pieces (attributeText item "Include") →
          document ∈ around.itemPaths directory (attributeText item "Include")) ∧
        (other ∈ pieces (attributeText item "Exclude") → document ∉ around.includedBy directory item) ∧
        (other ∈ pieces (attributeText item "Remove") →
          (∀ later ∈ after, document ∉ around.includedBy directory later) →
          ∀ project reports, around.evaluate file = .ok (project, reports) → document ∉ project.documents) := by
  refine ⟨alike.evaluate_congr declares instead fun path language => ?_,
    fun before item after items piece other spelled => ⟨mem_itemPaths_of_spelled spelled,
      not_mem_includedBy_of_spelled spelled, fun removed never project reports evaluates => ?_⟩⟩
  · have told := matches_of_relisted corresponds
    exact Prod.ext
      (around.project_eq_of_matches told (fun _ _ => Relisted.settings) fun _ _ => samePaths_of_respelled)
      (around.reports_eq_of_matches told fun _ _ => sameReports_of_respelled)
  · rw [declares.evaluate_eq] at evaluates
    cases known : Language.of? (around.projectKey file) with
    | none =>
      rw [known] at evaluates
      cases evaluates
    | some language =>
      rw [known] at evaluates
      have described : (around.describe (around.projectKey file) language root).1 = project :=
        congrArg Prod.fst (Except.ok.inj evaluates)
      rw [← described]
      exact not_mem_documents_of_spelled items spelled removed never

def respelledTree (removed : String) : Element :=
  .node ⟨none, "P"⟩ [] "" [
    .node ⟨none, "Compile"⟩ [⟨⟨none, "Include"⟩, "a.cs;x.cs"⟩] "" [],
    .node ⟨none, "Compile"⟩ [⟨⟨none, "Remove"⟩, removed⟩] "" []]

/-- A file is removed by way of a detour, with either kind of slash, and an empty part changes nothing. -/
theorem evaluate_respelled_sample :
    ∃ around likewise : Surroundings, ∃ project : Project,
      project.documents = [⟨.root, ["r", "a.cs"]⟩] ∧
      around.Declares ⟨.here, ["p.csproj"]⟩ (respelledTree "x.cs") ∧
      likewise.Declares ⟨.here, ["p.csproj"]⟩ (respelledTree "n\\../x.cs ;") ∧
      around.evaluate ⟨.here, ["p.csproj"]⟩ = .ok (project, []) ∧
      likewise.evaluate ⟨.here, ["p.csproj"]⟩ = .ok (project, []) ∧
      ⟨.root, ["r", "x.cs"]⟩ ∉ project.documents := by
  let around := projectSample ["<P><Compile ", "Include='a.cs;x.cs'/>", "<Compile Remove='x.cs'/>", "</P>"]
  let likewise := projectSample ["<P><Compile ", "Include='a.cs;x.cs'/>", "<Compile Remove=", "'n\\../x.cs ;'/></P>"]
  let piece := "x.cs".toList
  let other := "n\\../x.cs ".toList
  have declares : around.Declares ⟨.here, ["p.csproj"]⟩ (respelledTree "x.cs") :=
    declares_projectSample (by decide +kernel)
  have instead : likewise.Declares ⟨.here, ["p.csproj"]⟩ (respelledTree "n\\../x.cs ;") :=
    declares_projectSample (by decide +kernel)
  have short : components piece = [] ++ [piece] := by decide +kernel
  have long : components other = [] ++ ['n'] :: ['.', '.'] :: [piece] := by decide +kernel
  have relative : Relative ([] ++ [piece]) := (by decide : piece ≠ [])
  have detour : Detour ['n'] := ⟨by decide, by decide, by decide, by decide, by decide⟩
  have spelled : Spelled piece other := by
    refine ⟨short ▸ relative, ?_, ?_⟩
    · rw [short]
      exact List.forall_mem_singleton.mpr ⟨by decide, by decide, by decide⟩
    · rw [short, long]
      exact .rel _ _ (.around detour relative)
  have lists : SameList "x.cs" "n\\../x.cs ;" := by
    have before : pieces "x.cs" = [piece] := by decide +kernel
    have after : pieces "n\\../x.cs ;" = [other, []] := by decide +kernel
    refine ⟨?_, by decide⟩
    rw [before, after]
    exact .spelled spelled (.added rfl .nil)
  have corresponds : Element.Corresponds Respelled (respelledTree "x.cs") (respelledTree "n\\../x.cs ;") :=
    .of ⟨rfl, rfl, .nil⟩ (
      .cons (.of ⟨rfl, rfl, .cons (sameAttribute_of_list (by decide) (.refl _)) .nil⟩ .nil) (
      .cons (.of ⟨rfl, rfl, .cons (sameAttribute_of_list (by decide) lists) .nil⟩ .nil) .nil))
  obtain ⟨same, governs⟩ := evaluate_respelled (alike_projectSample _ _) declares instead corresponds
  have made : around.evaluate ⟨.here, ["p.csproj"]⟩ = .ok (⟨⟨.root, ["r", "p.csproj"]⟩, "p", some .csharp,
      [⟨.root, ["r", "a.cs"]⟩], []⟩, []) := by
    decide +kernel
  have removed := (governs [.node ⟨none, "Compile"⟩ [⟨⟨none, "Include"⟩, "a.cs;x.cs"⟩] "" []] _ [] rfl other piece
    spelled.symm).2.2 (by decide +kernel) (List.forall_mem_nil _) _ _ made
  rw [projectKey_projectSample] at removed
  have document : (Path.mk .root ["r", "p.csproj"]).parent.seenFrom other = ⟨.root, ["r", "x.cs"]⟩ := by decide +kernel
  exact ⟨around, likewise, _, rfl, declares, instead, made, same.trans made, document ▸ removed⟩

end Surroundings
end UsingCensus
