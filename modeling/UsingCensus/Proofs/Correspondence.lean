import Mathlib.Data.List.Forall2
import UsingCensus.Proofs.CompiledFiles
import UsingCensus.Proofs.Likeness

/-!
Project files with the same items, told otherwise. Main statements: where the compile items and references of two
project files are related one by one, so that related ones stand for the same paths, the projects are the same; and
a tree that corresponds to another element by element is such a one.
-/
namespace UsingCensus

open Xml ProjectFile

namespace Xml.Element

mutual

/-- Trees are compared name by name, from the outermost element inwards. -/
def decideEq : (element other : Element) → Decidable (element = other)
  | .node name attributes text children, .node also others told siblings =>
    have inner := decideEqIn children siblings
    decidable_of_iff (name = also ∧ attributes = others ∧ text = told ∧ children = siblings) (by simp)

def decideEqIn : (elements others : List Element) → Decidable (elements = others)
  | [], [] => .isTrue rfl
  | [], _ :: _ => .isFalse (by simp)
  | _ :: _, [] => .isFalse (by simp)
  | element :: rest, other :: more =>
    have first := decideEq element other
    have later := decideEqIn rest more
    decidable_of_iff (element = other ∧ rest = more) (by simp)

end

instance : DecidableEq Element := decideEq

variable {same : Element → Element → Prop} {element other : Element}

/-- Trees of one shape: the outermost elements are related, and so are all inside them at the same places. -/
inductive Corresponds (same : Element → Element → Prop) : Element → Element → Prop where
  | of {element other : Element} : same element other →
      List.Forall₂ (Corresponds same) element.children other.children → Corresponds same element other

namespace Corresponds

theorem own (corresponds : Corresponds same element other) : same element other := by
  cases corresponds with
  | of own _ => exact own

theorem children (corresponds : Corresponds same element other) :
    List.Forall₂ same element.children other.children := by
  cases corresponds with
  | of _ inner => exact inner.imp fun _ _ => own

mutual

theorem all : {element other : Element} → Corresponds same element other →
    List.Forall₂ same element.all other.all
  | .node _ _ _ _, .node _ _ _ _, .of own inner => by
    rw [Element.all, Element.all]
    exact .cons own (allIn inner)

theorem allIn : {elements others : List Element} → List.Forall₂ (Corresponds same) elements others →
    List.Forall₂ same (Element.allIn elements) (Element.allIn others)
  | [], [], .nil => .nil
  | _ :: _, _ :: _, .cons first rest => by
    rw [Element.allIn, Element.allIn]
    exact List.rel_append (all first) (allIn rest)

end

theorem named (corresponds : Corresponds same element other) {name renamed : Name}
    (tells : ∀ a b, same a b → (a.name = name ↔ b.name = renamed)) :
    List.Forall₂ same (element.named name) (other.named renamed) := by
  refine List.rel_filter (fun a b related => ?_) corresponds.all
  simpa using tells a b related

end Corresponds
end Xml.Element

theorem flatMap_eq_of_forall₂ {α β : Type} {related : α → α → Prop} {list others : List α} {f g : α → List β}
    (pairs : List.Forall₂ related list others) (same : ∀ a b, related a b → g b = f a) :
    others.flatMap g = list.flatMap f := by
  induction pairs with
  | nil => rfl
  | cons first _ ih => rw [List.flatMap_cons, List.flatMap_cons, same _ _ first, ih]

theorem any_eq_of_forall₂ {α : Type} {related : α → α → Prop} {list others : List α} {test : α → Bool}
    {testOther : α → Bool} (pairs : List.Forall₂ related list others)
    (same : ∀ a b, related a b → testOther b = test a) : others.any testOther = list.any test := by
  induction pairs with
  | nil => rfl
  | cons first _ ih => rw [List.any_cons, List.any_cons, same _ _ first, ih]

namespace ProjectFile

variable {related : Element → Element → Prop} {root other item element : Element}

/-- Elements that say the same where no item lists are looked at. -/
structure SameSettings (element other : Element) : Prop where
  text : other.text = element.text
  sdk : attributeText other "Sdk" = attributeText element "Sdk"

structure Matches (related : Element → Element → Prop) (root other : Element) : Prop where
  settings : SameSettings root other
  child : hasSdkChild other = hasSdkChild root
  named : ∀ localName,
    List.Forall₂ related (root.named (itemName root localName)) (other.named (itemName other localName))

namespace Matches

theorem isSdkStyle_eq (told : Matches related root other) (settings : ∀ a b, related a b → SameSettings a b) :
    isSdkStyle other = isSdkStyle root := by
  have imports : (other.named (itemName other "Import")).any (fun element => attributeText element "Sdk" ≠ "") =
      (root.named (itemName root "Import")).any fun element => attributeText element "Sdk" ≠ "" :=
    any_eq_of_forall₂ (told.named "Import") fun a b pair => by rw [(settings a b pair).sdk]
  unfold isSdkStyle
  rw [told.settings.sdk, told.child, imports]

theorem defaultItemsEnabled_eq (told : Matches related root other)
    (settings : ∀ a b, related a b → SameSettings a b) :
    defaultItemsEnabled other = defaultItemsEnabled root := by
  have switches (localName : String) :
      (other.named (itemName other localName)).any saysFalse = (root.named (itemName root localName)).any saysFalse :=
    any_eq_of_forall₂ (told.named localName) fun a b pair => by rw [saysFalse, (settings a b pair).text, saysFalse]
  unfold defaultItemsEnabled
  simp only [switches]

end Matches

/-! ### Other lists in the same places -/

/-- The attributes that hold item lists. -/
def listNames : List String := ["Include", "Exclude", "Remove"]

/-- The same attribute, but for the text of an item list. -/
structure SameAttribute (lists : String → String → Prop) (given other : Attribute) : Prop where
  name : other.name = given.name
  listed : (∃ list ∈ listNames, given.name = ⟨none, list⟩) → lists given.value other.value
  kept : (¬ ∃ list ∈ listNames, given.name = ⟨none, list⟩) → other.value = given.value

theorem sameAttribute_of_list {lists : String → String → Prop} {list items instead : String}
    (known : list ∈ listNames) (related : lists items instead) :
    SameAttribute lists ⟨⟨none, list⟩, items⟩ ⟨⟨none, list⟩, instead⟩ :=
  ⟨rfl, fun _ => related, fun unknown => absurd ⟨list, known, rfl⟩ unknown⟩

/-- The same element, but for the texts of its item lists. -/
structure Relisted (lists : String → String → Prop) (element other : Element) : Prop where
  name : other.name = element.name
  text : other.text = element.text
  attributes : List.Forall₂ (SameAttribute lists) element.attributes other.attributes

variable {lists : String → String → Prop} {localName : String}

theorem Relisted.attribute?_cases (relisted : Relisted lists element other) (localName : String) :
    (element.attribute? localName = none ∧ other.attribute? localName = none) ∨
      ∃ given instead, given.name = ⟨none, localName⟩ ∧ SameAttribute lists given instead ∧
        element.attribute? localName = some given.value ∧ other.attribute? localName = some instead.value := by
  have pairs := relisted.attributes
  unfold Element.attribute?
  generalize element.attributes = own, other.attributes = others at pairs
  induction pairs with
  | nil => exact .inl ⟨rfl, rfl⟩
  | @cons given instead _ _ first _ ih =>
    by_cases found : given.name = ⟨none, localName⟩
    · have also : instead.name = ⟨none, localName⟩ := first.name.trans found
      exact .inr ⟨given, instead, found, first, by simp [found], by simp [also]⟩
    · have neither : instead.name ≠ ⟨none, localName⟩ := fun same => found (first.name.symm.trans same)
      simpa [found, neither] using ih

theorem Relisted.listed (relisted : Relisted lists element other) (empty : lists "" "")
    (known : localName ∈ listNames) : lists (attributeText element localName) (attributeText other localName) := by
  unfold attributeText
  rcases relisted.attribute?_cases localName with ⟨missing, also⟩ | ⟨given, instead, named, same, value, other⟩
  · rw [missing, also]
    exact empty
  · rw [value, other]
    exact same.listed ⟨localName, known, named⟩

theorem Relisted.kept (relisted : Relisted lists element other) (unknown : localName ∉ listNames) :
    attributeText other localName = attributeText element localName := by
  unfold attributeText
  rcases relisted.attribute?_cases localName with ⟨missing, also⟩ | ⟨given, instead, named, same, value, other⟩
  · rw [missing, also]
  · rw [value, other, same.kept]
    rintro ⟨list, known, called⟩
    have also : list = localName := (Name.mk.inj (called.symm.trans named)).2
    exact unknown (also ▸ known)

theorem Relisted.settings (relisted : Relisted lists element other) : SameSettings element other :=
  ⟨relisted.text, relisted.kept (by decide)⟩

theorem matches_of_relisted (corresponds : Element.Corresponds (Relisted lists) root other) :
    Matches (Relisted lists) root other := by
  have space : itemSpace other = itemSpace root := by rw [itemSpace, corresponds.own.name, itemSpace]
  refine ⟨corresponds.own.settings, ?_, fun localName => corresponds.named fun a b pair => ?_⟩
  · unfold hasSdkChild itemName
    rw [space]
    exact any_eq_of_forall₂ corresponds.children fun a b pair => by rw [pair.name]
  · rw [pair.name, itemName, itemName, space]

end ProjectFile

namespace Surroundings

variable {around likewise : Surroundings} {apart : Location → Prop} {path file : Path} {language : Language}
  {related : Element → Element → Prop} {root other : Element}

/-- Elements whose item lists stand for the same paths. -/
def SamePaths (around : Surroundings) (directory : Path) (item other : Element) : Prop :=
  ∀ list ∈ listNames,
    around.itemPaths directory (attributeText other list) = around.itemPaths directory (attributeText item list)

theorem SamePaths.applyItem_eq {directory : Path} {item other : Element}
    (same : around.SamePaths directory item other) (documents : List Path) :
    around.applyItem directory documents other = around.applyItem directory documents item := by
  unfold applyItem includedBy removedBy
  rw [same "Include" (by decide), same "Exclude" (by decide), same "Remove" (by decide)]

theorem foldl_applyItem_eq {directory : Path} {items others : List Element}
    (pairs : List.Forall₂ (around.SamePaths directory) items others) (start : List Path) :
    others.foldl (around.applyItem directory) start = items.foldl (around.applyItem directory) start := by
  induction pairs generalizing start with
  | nil => rfl
  | cons first _ ih => rw [List.foldl_cons, List.foldl_cons, first.applyItem_eq, ih]

/-- Items that stand for the same paths make the same project. -/
theorem project_eq_of_matches (told : Matches related root other) (settings : ∀ a b, related a b → SameSettings a b)
    (paths : ∀ a b, related a b → around.SamePaths path.parent a b) :
    (around.describe path language other).1 = (around.describe path language root).1 := by
  have starting : around.startingDocuments language path.parent other =
      around.startingDocuments language path.parent root := by
    unfold startingDocuments
    rw [told.isSdkStyle_eq settings, told.defaultItemsEnabled_eq settings]
  have documents := around.foldl_applyItem_eq ((told.named "Compile").imp paths)
    (around.startingDocuments language path.parent root)
  have references := flatMap_eq_of_forall₂ (told.named "ProjectReference")
    (f := fun item => around.itemPaths path.parent (attributeText item "Include"))
    (g := fun item => around.itemPaths path.parent (attributeText item "Include"))
    fun a b pair => paths a b pair "Include" (by decide)
  unfold describe
  dsimp only
  rw [starting, documents, references]

/-- Elements whose item lists are reported alike. -/
structure SameReports (path : Path) (item other : Element) : Prop where
  compiled : itemReports path other = itemReports path item
  referred : ItemList.reports path (attributeText other "Include") =
    ItemList.reports path (attributeText item "Include")

theorem reports_eq_of_matches (told : Matches related root other) (reports : ∀ a b, related a b → SameReports path a b) :
    (around.describe path language other).2 = (around.describe path language root).2 := by
  have compiled := flatMap_eq_of_forall₂ (told.named "Compile") fun a b pair => (reports a b pair).compiled
  have referred := flatMap_eq_of_forall₂ (told.named "ProjectReference")
    (f := fun item => ItemList.reports path (attributeText item "Include"))
    (g := fun item => ItemList.reports path (attributeText item "Include"))
    fun a b pair => (reports a b pair).referred
  unfold describe
  dsimp only
  rw [compiled, referred]

/-! ### Files -/

/-- The project file of a path holds an outermost element with all inside it. -/
def Declares (around : Surroundings) (file : Path) (root : Element) : Prop :=
  ∃ bytes, around.read (around.projectKey file).toString = .ok bytes ∧ Xml.parse bytes = .ok root

theorem Declares.evaluate_eq (declares : around.Declares file root) :
    around.evaluate file =
      match Language.of? (around.projectKey file) with
      | none => .error (.unknownLanguage (around.projectKey file))
      | some language => .ok (around.describe (around.projectKey file) language root) := by
  obtain ⟨bytes, read, parsed⟩ := declares
  unfold evaluate
  rw [← projectKey]
  dsimp only
  cases Language.of? (around.projectKey file) with
  | none => rfl
  | some language => simp only [read, parsed]

/-- In surroundings that differ in what files hold, a path is evaluated by the element that its file holds there. -/
theorem Alike.evaluate_eq_of_declares (alike : Alike apart around likewise) (declares : likewise.Declares file other) :
    likewise.evaluate file =
      match Language.of? (around.projectKey file) with
      | none => .error (.unknownLanguage (around.projectKey file))
      | some language => .ok (around.describe (around.projectKey file) language other) := by
  rw [declares.evaluate_eq, alike.projectKey_eq]
  simp only [alike.describe_eq]

theorem Alike.evaluate_congr (alike : Alike apart around likewise) (declares : around.Declares file root)
    (instead : likewise.Declares file other)
    (same : ∀ path language, around.describe path language other = around.describe path language root) :
    likewise.evaluate file = around.evaluate file := by
  rw [alike.evaluate_eq_of_declares instead, declares.evaluate_eq]
  simp only [same]

def projectSample (lines : List String) : Surroundings where
  tree := [(["r", "p.csproj"], lines), (["r", "a.cs"], [])].foldl
    (fun tree (location, texts) => tree.plant location (.file (texts.flatMap Text.Utf8.ofString))) FileTree.empty
  directory := ["r"]
  home := "/r"

theorem alike_projectSample (lines others : List String) :
    Alike (· = ["r", "p.csproj"]) (projectSample lines) (projectSample others) :=
  have stands : (projectSample lines).tree.entry? ["r", "p.csproj"] =
    some (.file (lines.flatMap Text.Utf8.ofString)) := rfl
  alike_rewritten stands (others.flatMap Text.Utf8.ofString)

@[simp] theorem projectKey_projectSample (lines : List String) :
    (projectSample lines).projectKey ⟨.here, ["p.csproj"]⟩ = ⟨.root, ["r", "p.csproj"]⟩ := by
  rw [(alike_projectSample [] lines).projectKey_eq]
  decide +kernel

theorem declares_projectSample {lines : List String} (parsed : Xml.parse (lines.flatMap Text.Utf8.ofString) = .ok root) :
    (projectSample lines).Declares ⟨.here, ["p.csproj"]⟩ root := by
  have leads : (projectSample lines).seek true "/r/p.csproj" = .ok ["r", "p.csproj"] := by
    rw [(alike_projectSample [] lines).seek_eq]
    decide +kernel
  have text : (Path.mk .root ["r", "p.csproj"]).toString = "/r/p.csproj" := by decide +kernel
  have null : "/r/p.csproj".toList.contains '\x00' = false := by decide +kernel
  refine ⟨lines.flatMap Text.Utf8.ofString, ?_, parsed⟩
  rw [projectKey_projectSample, text]
  simp only [read, find, leads, null]
  rfl

end Surroundings
end UsingCensus
