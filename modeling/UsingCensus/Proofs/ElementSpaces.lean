import UsingCensus.Proofs.Correspondence

/-!
Project files and the namespaces of their elements. Main statement: a tree without namespaces makes the same project
as the same tree in a namespace, and beside the namespace of the outermost element, if the lookups take it as it
stands, no element counts.
-/
namespace UsingCensus

open Xml ProjectFile

theorem Xml.name_eq_iff {name : Name} {space : Option String} {localName : String} :
    name = ⟨space, localName⟩ ↔ name.space = space ∧ name.localName = localName := by
  cases name
  simp

namespace Xml.Element

mutual

/-- The tree in a namespace. -/
def within (space : String) : Element → Element
  | .node name attributes text children =>
    .node ⟨some space, name.localName⟩ attributes text (withinIn space children)

def withinIn (space : String) : List Element → List Element
  | [] => []
  | element :: rest => element.within space :: withinIn space rest

end

def bare (element : Element) : Element := .node element.name element.attributes element.text []

theorem bare_eq_iff {element other : Element} : other.bare = element.bare ↔
    other.name = element.name ∧ other.attributes = element.attributes ∧ other.text = element.text := by
  simp [bare]

/-- The same element, but in a namespace instead of none. -/
structure Spaced (space : String) (element other : Element) : Prop where
  before : element.name.space = none
  name : other.name = ⟨some space, element.name.localName⟩
  attributes : other.attributes = element.attributes
  text : other.text = element.text

/-- No element of the tree is in a namespace. -/
def Unspaced (root : Element) : Prop := ∀ element ∈ root.all, element.name.space = none

variable {space : String}

mutual

theorem corresponds_within : {root : Element} → root.Unspaced → Corresponds (Spaced space) root (root.within space)
  | .node name attributes text children, unspaced => by
    rw [Unspaced, all, List.forall_mem_cons] at unspaced
    exact .of ⟨unspaced.1, by rw [within]; rfl, by rw [within]; rfl, by rw [within]; rfl⟩
      (by rw [within]; exact corresponds_withinIn unspaced.2)

theorem corresponds_withinIn : {elements : List Element} →
    (∀ element ∈ allIn elements, element.name.space = none) →
    List.Forall₂ (Corresponds (Spaced space)) elements (withinIn space elements)
  | [], _ => .nil
  | element :: rest, unspaced => by
    rw [allIn, List.forall_mem_append] at unspaced
    exact .cons (corresponds_within unspaced.1) (corresponds_withinIn unspaced.2)

end
end Xml.Element

namespace ProjectFile

open Xml.Element

variable {root other element : Element} {space localName : String}

/-- Elements with the same attributes and the same text. -/
def SameContent (element other : Element) : Prop :=
  other.attributes = element.attributes ∧ other.text = element.text

theorem SameContent.attributeText_eq (same : SameContent element other) (localName : String) :
    attributeText other localName = attributeText element localName := by
  rw [attributeText, Element.attribute?, same.1, attributeText, Element.attribute?]

theorem SameContent.settings (same : SameContent element other) : SameSettings element other :=
  ⟨same.2, same.attributeText_eq "Sdk"⟩

/-- Lookups without a namespace find in a tree what those in a namespace find in the tree put into it. -/
theorem matches_of_spaced (corresponds : Corresponds (Spaced space) root other) (line : '\n' ∉ space.toList) :
    Matches SameContent root other := by
  have outer := corresponds.own
  have before : itemSpace root = none := by rw [itemSpace, outer.before]
  have after : itemSpace other = some space := by
    rw [itemSpace, outer.name]
    exact if_neg (by simpa using line)
  have renamed (localName : String) (a b : Element) (pair : Spaced space a b) :
      a.name = itemName root localName ↔ b.name = itemName other localName := by
    rw [itemName, itemName, before, after, pair.name, name_eq_iff, name_eq_iff]
    simp [pair.before]
  refine ⟨SameContent.settings ⟨outer.attributes, outer.text⟩, ?_, fun localName => ?_⟩
  · unfold hasSdkChild
    refine any_eq_of_forall₂ corresponds.children fun a b pair => Bool.eq_iff_iff.mpr ?_
    simp only [before, after, Bool.or_eq_true, decide_eq_true_eq, Bool.and_eq_true, ← renamed "Sdk" a b pair]
    -- if all are in the namespace `*`, it stands for no other
    rw [or_iff_left_of_imp, or_iff_left_of_imp]
    · rintro ⟨none, _⟩
      cases none
    · rintro ⟨_, called⟩
      rw [itemName, before, name_eq_iff]
      rw [pair.name] at called
      exact ⟨pair.before, called⟩
  · exact (corresponds.named (renamed localName)).imp fun _ _ pair => ⟨pair.attributes, pair.text⟩

/-- Of a list the elements in the namespace of the outermost element. -/
def own (root : Element) (elements : List Element) : List Element :=
  elements.filter fun element => element.name.space = root.name.space

/-- The outermost elements say the same, and so do, in document order, all elements in its namespace and those of them
right inside it. -/
structure TellsAlike (root other : Element) : Prop where
  outermost : other.bare = root.bare
  elements : (own other other.all).map bare = (own root root.all).map bare
  children : (own other other.children).map bare = (own root root.children).map bare

/-- A namespace that lookups take as it stands, or none. -/
def IsPlain : Option String → Prop
  | none => True
  | some space => space ≠ "*" ∧ '\n' ∉ space.toList

theorem itemSpace_eq_of_isPlain (plain : IsPlain root.name.space) : itemSpace root = root.name.space := by
  unfold itemSpace
  cases spaced : root.name.space with
  | none => rfl
  | some space =>
    rw [spaced] at plain
    exact if_neg (by simpa using plain.2)

theorem hasSdkChild_eq_of_isPlain (plain : IsPlain root.name.space) :
    hasSdkChild root = (own root root.children).any fun child => child.name.localName = "Sdk" := by
  have star : root.name.space ≠ some "*" := by
    intro spaced
    rw [spaced] at plain
    exact plain.1 rfl
  unfold hasSdkChild own itemName
  rw [itemSpace_eq_of_isPlain plain, List.any_filter]
  congr 1
  funext child
  simp [name_eq_iff, star]

theorem pairs_of_map_bare {elements others : List Element} (same : others.map bare = elements.map bare) :
    List.Forall₂ (fun element other => other.bare = element.bare) elements others := by
  have equal := List.forall₂_eq_eq_eq ▸ same
  exact (List.forall₂_map_right_iff.mp (List.forall₂_map_left_iff.mp equal)).flip

/-- Where the namespace is plain, only elements in it count. -/
theorem matches_of_tellsAlike (plain : IsPlain root.name.space) (alike : TellsAlike root other) :
    Matches SameContent root other := by
  obtain ⟨name, attributes, text⟩ := bare_eq_iff.mp alike.outermost
  have also : IsPlain other.name.space := by rwa [name]
  refine ⟨SameContent.settings ⟨attributes, text⟩, ?_, fun localName => ?_⟩
  · rw [hasSdkChild_eq_of_isPlain also, hasSdkChild_eq_of_isPlain plain]
    exact any_eq_of_forall₂ (pairs_of_map_bare alike.children) fun a b same => by rw [(bare_eq_iff.mp same).1]
  have named (tree : Element) (plain : IsPlain tree.name.space) : tree.named (itemName tree localName) =
      (own tree tree.all).filter fun element => element.name.localName = localName := by
    rw [own, List.filter_filter, Element.named, itemName, itemSpace_eq_of_isPlain plain]
    exact List.filter_congr fun element _ => by simp [name_eq_iff, and_comm]
  rw [named root plain, named other also]
  refine (List.rel_filter (fun a b same => ?_) (pairs_of_map_bare alike.elements)).imp fun a b same => ?_
  · have names : b.name = a.name := (bare_eq_iff.mp same).1
    simp [names]
  · exact (bare_eq_iff.mp same).2

/-- In a namespace that is not plain, a child in no namespace counts as the SDK. -/
theorem hasSdkChild_of_not_isPlain (counts : ¬ IsPlain root.name.space)
    (child : ∃ child ∈ root.children, child.name = ⟨none, "Sdk"⟩) : hasSdkChild root = true := by
  obtain ⟨child, inside, named⟩ := child
  refine List.any_eq_true.mpr ⟨child, inside, ?_⟩
  rw [named, itemName, itemSpace]
  cases spaced : root.name.space with
  | none =>
    rw [spaced] at counts
    exact absurd trivial counts
  | some space =>
    rw [spaced] at counts
    by_cases line : '\n' ∈ space.toList
    · simp [line]
    · have star : space = "*" := by
        by_contra other
        exact counts ⟨other, line⟩
      simp [star]

/-- An outermost element in a namespace, with children. -/
def projectIn (space : Option String) (children : List Element) : Element := .node ⟨space, "Project"⟩ [] "" children

/-- A child in no namespace that names an SDK. -/
def sdkChild : Element := .node ⟨none, "Sdk"⟩ [] "" []

theorem exists_isSdkStyle_ne (space : Option String) (counts : ¬ IsPlain space) :
    ∃ root other : Element, root.name.space = space ∧ TellsAlike root other ∧ isSdkStyle other ≠ isSdkStyle root := by
  have spaced : none ≠ space := by
    rintro rfl
    exact counts trivial
  have tells : TellsAlike (projectIn space []) (projectIn space [sdkChild]) :=
    ⟨rfl, by simp [own, projectIn, sdkChild, all, allIn, bare, Element.name, Element.attributes, Element.text, spaced],
      by simp [own, projectIn, sdkChild, Element.children, Element.name, spaced]⟩
  have alone : isSdkStyle (projectIn space []) = false := by
    simp [isSdkStyle, hasSdkChild, attributeText, Element.attribute?, Element.named, projectIn, all, allIn, itemName,
      Element.name, Element.children, Element.attributes]
  have counted : hasSdkChild (projectIn space [sdkChild]) = true :=
    hasSdkChild_of_not_isPlain counts ⟨sdkChild, List.mem_singleton.mpr rfl, rfl⟩
  refine ⟨projectIn space [], projectIn space [sdkChild], rfl, tells, ?_⟩
  rw [alone, isSdkStyle, counted]
  simp

end ProjectFile

namespace Surroundings

variable {around likewise : Surroundings} {apart : Location → Prop} {file : Path} {root other : Element}

theorem describe_eq_of_matches (told : Matches SameContent root other) (path : Path) (language : Language) :
    around.describe path language other = around.describe path language root := by
  refine Prod.ext (around.project_eq_of_matches told (fun _ _ => SameContent.settings) fun a b same list _ => ?_)
    (around.reports_eq_of_matches told fun a b same => ⟨?_, ?_⟩)
  · rw [same.attributeText_eq]
  · unfold itemReports
    simp only [same.attributeText_eq]
  · rw [same.attributeText_eq]

/-- A tree without namespaces makes the same project in any that it is put into, but for one with a line break. In a
tree of mixed ones no element outside that of the outermost counts, exactly if it is no `*` and has no line break. -/
theorem evaluate_spaced (alike : Alike apart around likewise) (declares : around.Declares file root)
    (instead : likewise.Declares file other) :
    (∀ space : String, '\n' ∉ space.toList → root.Unspaced → other = root.within space →
      likewise.evaluate file = around.evaluate file ∧ isSdkStyle other = isSdkStyle root ∧
        defaultItemsEnabled other = defaultItemsEnabled root) ∧
    (IsPlain root.name.space → TellsAlike root other →
      likewise.evaluate file = around.evaluate file ∧ isSdkStyle other = isSdkStyle root ∧
        defaultItemsEnabled other = defaultItemsEnabled root) ∧
    ∀ space, ¬ IsPlain space → ∃ root other : Element,
      root.name.space = space ∧ TellsAlike root other ∧ isSdkStyle other ≠ isSdkStyle root := by
  have same (told : Matches SameContent root other) : likewise.evaluate file = around.evaluate file ∧
      isSdkStyle other = isSdkStyle root ∧ defaultItemsEnabled other = defaultItemsEnabled root :=
    ⟨alike.evaluate_congr declares instead (describe_eq_of_matches told),
      told.isSdkStyle_eq fun _ _ => SameContent.settings,
      told.defaultItemsEnabled_eq fun _ _ => SameContent.settings⟩
  refine ⟨?_, fun plain tells => same (matches_of_tellsAlike plain tells), exists_isSdkStyle_ne⟩
  rintro space line unspaced rfl
  exact same (matches_of_spaced (Element.corresponds_within unspaced) line)

/-- A tree in no namespace, the same in one, and there with a child outside it. -/
theorem evaluate_spaced_sample :
    ∃ around likewise mixed : Surroundings, ∃ project : Project,
      project.documents = [⟨.root, ["r", "a.cs"]⟩] ∧ project.references = [⟨.root, ["r", "q.csproj"]⟩] ∧
      around.evaluate ⟨.here, ["p.csproj"]⟩ = .ok (project, []) ∧
      likewise.evaluate ⟨.here, ["p.csproj"]⟩ = .ok (project, []) ∧
      mixed.evaluate ⟨.here, ["p.csproj"]⟩ = .ok (project, []) := by
  let around := projectSample ["<P><Compile Include='a.cs'/>", "<ProjectReference ", "Include='q.csproj'/></P>"]
  let likewise := projectSample ["<P xmlns='u'>", "<Compile Include='a.cs'/>", "<ProjectReference ",
    "Include='q.csproj'/></P>"]
  let mixed := projectSample ["<P xmlns='u'>", "<Compile Include='a.cs'/>", "<ProjectReference ",
    "Include='q.csproj'/>", "<Compile xmlns='' ", "Remove='a.cs'/></P>"]
  let tree (space : Option String) (others : List Element) : Element := .node ⟨space, "P"⟩ [] ""
    (.node ⟨space, "Compile"⟩ [⟨⟨none, "Include"⟩, "a.cs"⟩] "" [] ::
      .node ⟨space, "ProjectReference"⟩ [⟨⟨none, "Include"⟩, "q.csproj"⟩] "" [] :: others)
  let outside : Element := .node ⟨none, "Compile"⟩ [⟨⟨none, "Remove"⟩, "a.cs"⟩] "" []
  have declares : around.Declares ⟨.here, ["p.csproj"]⟩ (tree none []) := declares_projectSample (by decide +kernel)
  have instead : likewise.Declares ⟨.here, ["p.csproj"]⟩ (tree (some "u") []) :=
    declares_projectSample (by decide +kernel)
  have told : mixed.Declares ⟨.here, ["p.csproj"]⟩ (tree (some "u") [outside]) :=
    declares_projectSample (by decide +kernel)
  have spaced := (evaluate_spaced (alike_projectSample _ _) declares instead).1 "u" (by decide)
    (by unfold Element.Unspaced; decide +kernel) (by decide +kernel)
  have plain : IsPlain (some "u") := ⟨by decide, by decide⟩
  have alone := (evaluate_spaced (alike_projectSample _ _) instead told).2.1 plain
    ⟨by decide +kernel, by decide +kernel, by decide +kernel⟩
  have made : around.evaluate ⟨.here, ["p.csproj"]⟩ = .ok (⟨⟨.root, ["r", "p.csproj"]⟩, "p", some .csharp,
      [⟨.root, ["r", "a.cs"]⟩], [⟨.root, ["r", "q.csproj"]⟩]⟩, []) := by
    decide +kernel
  exact ⟨around, likewise, mixed, _, rfl, rfl, made, spaced.1.trans made, alone.1.trans (spaced.1.trans made)⟩

end Surroundings
end UsingCensus
