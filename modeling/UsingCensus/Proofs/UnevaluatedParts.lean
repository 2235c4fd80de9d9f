import UsingCensus.Proofs.Correspondence
import UsingCensus.Proofs.ItemPieces

/-!
Parts of item lists that are not evaluated. Main statement: without them a project file makes the same project and
nothing is reported about it, and with them just one line is reported for each, in the order in which the lists are
read.
-/
namespace UsingCensus

open Xml ProjectFile

namespace ItemList

variable {items : String} {piece : List Char}

def evaluatedPieces (items : String) : List (List Char) := (pieces items).filter fun piece => ¬ Refers piece

def withoutReferences (items : String) : String := String.ofList (Text.joinWith ';' (evaluatedPieces items))

theorem pieces_withoutReferences (items : String) : pieces (withoutReferences items) =
    if evaluatedPieces items = [] then [[]] else evaluatedPieces items := by
  rw [withoutReferences, pieces, String.toList_ofList]
  split
  · rename_i none
    rw [none]
    rfl
  · rename_i some
    refine Text.splitAt_joinWith some fun piece member => ?_
    exact Text.not_mem_of_mem_splitAt (List.mem_of_mem_filter member)

theorem not_refers_of_mem (member : piece ∈ pieces (withoutReferences items)) : ¬ Refers piece := by
  rw [pieces_withoutReferences] at member
  split at member
  · obtain rfl := List.mem_singleton.mp member
    exact refers_nil
  · simpa using (List.mem_filter.mp member).2

theorem reports_withoutReferences (project : Path) (items : String) :
    reports project (withoutReferences items) = [] := by
  rw [reports_eq, List.map_eq_nil_iff, List.filter_eq_nil_iff]
  intro piece member
  simpa using not_refers_of_mem member

end ItemList

namespace Surroundings

open ItemList

variable {around likewise : Surroundings} {apart : Location → Prop} {file path directory : Path}
  {language : Language} {root left element other : Element}

/-- The pieces that refer to something stand for no paths, and keep no other from standing for its own. -/
theorem itemPaths_withoutReferences (around : Surroundings) (directory : Path) (items : String) :
    around.itemPaths directory (withoutReferences items) = around.itemPaths directory items := by
  have others : (pieces (withoutReferences items)).flatMap (around.piecePaths directory) =
      (evaluatedPieces items).flatMap (around.piecePaths directory) := by
    rw [pieces_withoutReferences]
    split
    · rename_i none
      rw [none]
      rfl
    · rfl
  rw [itemPaths_eq, itemPaths_eq, others, evaluatedPieces]
  induction pieces items with
  | nil => rfl
  | cons piece rest ih =>
    rw [List.filter_cons, List.flatMap_cons, ← ih]
    by_cases refers : Refers piece
    · simp [refers, piecePaths_of_refers refers]
    · simp [refers]

/-! ### Elements -/

/-- The lists of an element are those of another without the pieces that refer to something. -/
abbrev Evaluated (element other : Element) : Prop :=
  Relisted (fun items left => left = withoutReferences items) element other

theorem samePaths_of_evaluated (evaluated : Evaluated element other) : around.SamePaths directory element other := by
  intro list known
  rw [evaluated.listed (by decide) known, itemPaths_withoutReferences]

theorem reports_of_evaluated (evaluated : Evaluated element other) {list : String} (known : list ∈ listNames) :
    ItemList.reports path (attributeText other list) = [] := by
  rw [evaluated.listed (by decide) known, reports_withoutReferences]

theorem itemReports_of_evaluated (evaluated : Evaluated element other) : itemReports path other = [] := by
  unfold itemReports
  rw [reports_of_evaluated evaluated (by decide), reports_of_evaluated evaluated (by decide),
    reports_of_evaluated evaluated (by decide)]
  simp

/-! ### Projects -/

/-- The item lists of a project file in the order in which they are read: of each compile item what it excludes and
includes, if it includes anything, and what it removes; and after them the references. -/
def listsRead (root : Element) : List String :=
  ((root.named (itemName root "Compile")).flatMap fun item =>
    (if attributeText item "Include" = "" then []
      else [attributeText item "Exclude", attributeText item "Include"]) ++ [attributeText item "Remove"]) ++
  (root.named (itemName root "ProjectReference")).map fun item => attributeText item "Include"

/-- The pieces that refer to something, in the order in which they are read. -/
def referringPieces (root : Element) : List (List Char) :=
  (listsRead root).flatMap fun items => (pieces items).filter fun piece => Refers piece

theorem itemReports_eq (path : Path) (item : Element) : itemReports path item =
    ((if attributeText item "Include" = "" then []
      else [attributeText item "Exclude", attributeText item "Include"]) ++
        [attributeText item "Remove"]).flatMap (ItemList.reports path) := by
  unfold itemReports
  split <;> simp

theorem reports_describe (path : Path) (language : Language) (root : Element) :
    (around.describe path language root).2 = (referringPieces root).map (skippedPiece path) := by
  have reported : (referringPieces root).map (skippedPiece path) = (listsRead root).flatMap (ItemList.reports path) := by
    rw [referringPieces, List.map_flatMap]
    exact List.flatMap_congr fun items _ => (reports_eq path items).symm
  have compiled : (root.named (itemName root "Compile")).flatMap (itemReports path) = _ :=
    List.flatMap_congr fun item _ => itemReports_eq path item
  rw [reported, listsRead, List.flatMap_append, List.flatMap_assoc, List.flatMap_map, ← compiled]
  rfl

theorem reports_of_corresponds (path : Path) (language : Language)
    (evaluated : Element.Corresponds Evaluated root left) : (around.describe path language left).2 = [] := by
  have told := matches_of_relisted evaluated
  have compiled := flatMap_eq_of_forall₂ (f := fun _ => []) (g := itemReports path) (told.named "Compile")
    fun _ _ => itemReports_of_evaluated
  have referred := flatMap_eq_of_forall₂ (f := fun _ => [])
    (g := fun item => ItemList.reports path (attributeText item "Include")) (told.named "ProjectReference")
    fun _ _ pair => reports_of_evaluated pair (by decide)
  unfold describe
  dsimp only
  rw [compiled, referred]
  simp

/-- Whatever in the item lists of a project file is not evaluated, the file makes the project that the other pieces
make, and it is told line by line what was passed over. -/
theorem evaluate_withoutReferences (alike : Alike apart around likewise) (declares : around.Declares file root)
    (instead : likewise.Declares file left) (evaluated : Element.Corresponds Evaluated root left) :
    (∃ project, around.evaluate file =
        .ok (project, (referringPieces root).map (skippedPiece (around.projectKey file))) ∧
      likewise.evaluate file = .ok (project, [])) ∨
    Language.of? (around.projectKey file) = none ∧
      around.evaluate file = .error (.unknownLanguage (around.projectKey file)) ∧
      likewise.evaluate file = .error (.unknownLanguage (around.projectKey file)) := by
  rw [declares.evaluate_eq, alike.evaluate_eq_of_declares instead]
  cases Language.of? (around.projectKey file) with
  | none => exact .inr ⟨rfl, rfl, rfl⟩
  | some language =>
    have project : (around.describe (around.projectKey file) language left).1 =
        (around.describe (around.projectKey file) language root).1 :=
      around.project_eq_of_matches (matches_of_relisted evaluated) (fun _ _ => Relisted.settings) fun _ _ =>
        samePaths_of_evaluated
    have silent := around.reports_of_corresponds (around.projectKey file) language evaluated
    refine .inl ⟨(around.describe (around.projectKey file) language root).1, ?_, ?_⟩
    · dsimp only
      rw [← around.reports_describe]
    · dsimp only
      rw [← project, ← silent]

def referringTree (referred removed included excluded unread : String) : Element :=
  .node ⟨none, "P"⟩ [] "" [
    .node ⟨none, "ProjectReference"⟩ [⟨⟨none, "Include"⟩, referred⟩] "" [],
    .node ⟨none, "Compile"⟩
      [⟨⟨none, "Remove"⟩, removed⟩, ⟨⟨none, "Include"⟩, included⟩, ⟨⟨none, "Exclude"⟩, excluded⟩] "" [],
    .node ⟨none, "Compile"⟩ [⟨⟨none, "Include"⟩, ""⟩, ⟨⟨none, "Exclude"⟩, unread⟩] "" []]

/-- Lists are told of in the order in which they are read, not in that of the file; what an item excludes that includes
nothing is not read. -/
theorem evaluate_withoutReferences_sample :
    ∃ around likewise : Surroundings, ∃ project : Project,
      project.documents = [⟨.root, ["r", "a.cs"]⟩] ∧ project.references = [⟨.root, ["r", "q.csproj"]⟩] ∧
      around.evaluate ⟨.here, ["p.csproj"]⟩ = .ok (project, [
        "Skipping unevaluated item '@(Y)' in /r/p.csproj", "Skipping unevaluated item '$(X)/b' in /r/p.csproj",
        "Skipping unevaluated item '%(Z)' in /r/p.csproj", "Skipping unevaluated item '$(R)' in /r/p.csproj"]) ∧
      likewise.evaluate ⟨.here, ["p.csproj"]⟩ = .ok (project, []) := by
  let around := projectSample ["<P><ProjectReference ", "Include='$(R);q.csproj'/>", "<Compile Remove='%(Z)' ",
    "Include='a.cs; $(X)\\b' ", "Exclude='@(Y);c.cs'/>", "<Compile Include='' ", "Exclude='$(N)'/></P>"]
  let likewise := projectSample ["<P><ProjectReference ", "Include='q.csproj'/>", "<Compile Remove='' ",
    "Include='a.cs' ", "Exclude='c.cs'/>", "<Compile Include='' ", "Exclude=''/></P>"]
  let root := referringTree "$(R);q.csproj" "%(Z)" "a.cs; $(X)\\b" "@(Y);c.cs" "$(N)"
  let left := referringTree "q.csproj" "" "a.cs" "c.cs" ""
  have declares : around.Declares ⟨.here, ["p.csproj"]⟩ root := declares_projectSample (by decide +kernel)
  have instead : likewise.Declares ⟨.here, ["p.csproj"]⟩ left := declares_projectSample (by decide +kernel)
  have listed (list items left : String) (known : list ∈ listNames) (same : left = withoutReferences items) :
      SameAttribute (fun items left => left = withoutReferences items) ⟨⟨none, list⟩, items⟩ ⟨⟨none, list⟩, left⟩ :=
    sameAttribute_of_list known same
  have evaluated : Element.Corresponds Evaluated root left :=
    .of ⟨rfl, rfl, .nil⟩ (
      .cons (.of ⟨rfl, rfl, .cons (listed "Include" _ _ (by decide) (by decide +kernel)) .nil⟩ .nil) (
      .cons (.of ⟨rfl, rfl, .cons (listed "Remove" _ _ (by decide) (by decide +kernel)) (
        .cons (listed "Include" _ _ (by decide) (by decide +kernel)) (
        .cons (listed "Exclude" _ _ (by decide) (by decide +kernel)) .nil))⟩ .nil) (
      .cons (.of ⟨rfl, rfl, .cons (listed "Include" _ _ (by decide) (by decide +kernel)) (
        .cons (listed "Exclude" _ _ (by decide) (by decide +kernel)) .nil)⟩ .nil) .nil)))
  have told := evaluate_withoutReferences (alike_projectSample _ _) declares instead evaluated
  have lines : (referringPieces root).map (skippedPiece ⟨.root, ["r", "p.csproj"]⟩) = [
      "Skipping unevaluated item '@(Y)' in /r/p.csproj", "Skipping unevaluated item '$(X)/b' in /r/p.csproj",
      "Skipping unevaluated item '%(Z)' in /r/p.csproj", "Skipping unevaluated item '$(R)' in /r/p.csproj"] := by
    decide +kernel
  have made : around.evaluate ⟨.here, ["p.csproj"]⟩ = .ok (⟨⟨.root, ["r", "p.csproj"]⟩, "p", some .csharp,
      [⟨.root, ["r", "a.cs"]⟩], [⟨.root, ["r", "q.csproj"]⟩]⟩, [
        "Skipping unevaluated item '@(Y)' in /r/p.csproj", "Skipping unevaluated item '$(X)/b' in /r/p.csproj",
        "Skipping unevaluated item '%(Z)' in /r/p.csproj", "Skipping unevaluated item '$(R)' in /r/p.csproj"]) := by
    decide +kernel
  rcases told with ⟨project, before, after⟩ | ⟨_, before, _⟩
  · rw [projectKey_projectSample, lines] at before
    obtain ⟨rfl, -⟩ := Prod.mk.inj (Except.ok.inj (before.symm.trans made))
    exact ⟨around, likewise, _, rfl, rfl, before, after⟩
  · cases before.symm.trans made

end Surroundings
end UsingCensus
