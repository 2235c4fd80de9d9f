import UsingCensus.Project.Basic
import UsingCensus.Project.Items
import UsingCensus.Xml.Document

/-!
Evaluation of a project file. Documents are the default items, if they apply, changed by the compile
items in document order: each first adds what it includes and does not exclude, then takes away what it
removes. Conditions are not evaluated.
-/
namespace UsingCensus

namespace ProjectFile

open Xml

/-- The namespace that the items of a project are looked up in, that of its outermost element. One
with a line break is as good as none. -/
def itemSpace (root : Element) : Option String :=
  match root.name.space with
  | some space => if space.toList.contains '\n' then none else some space
  | none => none

def itemName (root : Element) (localName : String) : Name := ⟨itemSpace root, localName⟩

def attributeText (element : Element) (localName : String) : String :=
  (element.attribute? localName).getD ""

/-- Does a child name the SDK? The namespace `*` stands for every namespace here. -/
def hasSdkChild (root : Element) : Bool :=
  root.children.any fun child =>
    child.name = itemName root "Sdk" || (itemSpace root = some "*" && child.name.localName = "Sdk")

/-- A project names its SDK by an attribute, a child element or an import. -/
def isSdkStyle (root : Element) : Bool :=
  attributeText root "Sdk" ≠ "" || hasSdkChild root ||
    (root.named (itemName root "Import")).any fun element => attributeText element "Sdk" ≠ ""

def saysFalse (element : Element) : Bool :=
  (Text.trim element.text.toList).map Text.lower = "false".toList

/-- The default items apply unless either property is switched off anywhere. -/
def defaultItemsEnabled (root : Element) : Bool :=
  !(["EnableDefaultItems", "EnableDefaultCompileItems"].any fun property =>
    (root.named (itemName root property)).any saysFalse)

/-- The output folders next to a project file. -/
def outputFolders : List String := ["bin", "obj"]

/-- Default items lie in no hidden folder and in no output folder next to the project file. -/
def entersFolder (depth : Nat) (name : String) : Bool :=
  !Wildcard.isHidden name && !(depth = 0 && outputFolders.contains (Text.lowerText name))

end ProjectFile

namespace Surroundings

open Xml ProjectFile

/-- Every C# source below a directory, output folders left out. -/
def defaultItems (around : Surroundings) (directory : Path) : List Path :=
  (around.walk entersFolder directory).filter fun path => Text.endsIn (Text.lowerText path.name) ".cs"

/-- What a compile item adds: its `Include` less its `Exclude`. -/
def includedBy (around : Surroundings) (directory : Path) (item : Element) : List Path :=
  let excluded := around.itemPaths directory (attributeText item "Exclude")
  (around.itemPaths directory (attributeText item "Include")).filter (· ∉ excluded)

def removedBy (around : Surroundings) (directory : Path) (item : Element) : List Path :=
  around.itemPaths directory (attributeText item "Remove")

/-- The effect of one compile item on the documents so far. -/
def applyItem (around : Surroundings) (directory : Path) (documents : List Path) (item : Element) :
    List Path :=
  (documents ++ around.includedBy directory item).filter (· ∉ around.removedBy directory item)

/-- What is reported about the lists of a compile item. `Exclude` is not looked at without `Include`. -/
def itemReports (path : Path) (item : Element) : List String :=
  (if attributeText item "Include" = "" then [] else
    ItemList.reports path (attributeText item "Exclude") ++
      ItemList.reports path (attributeText item "Include")) ++
    ItemList.reports path (attributeText item "Remove")

/-- The documents before any compile item. -/
def startingDocuments (around : Surroundings) (language : Language) (directory : Path) (root : Element) :
    List Path :=
  if language = .csharp && isSdkStyle root && defaultItemsEnabled root then around.defaultItems directory
  else []

/-- The project that the outermost element of a project file describes, and the reports. -/
def describe (around : Surroundings) (path : Path) (language : Language) (root : Element) :
    Project × List String :=
  let directory := path.parent
  let items := root.named (itemName root "Compile")
  let references := root.named (itemName root "ProjectReference")
  let documents :=
    items.foldl (around.applyItem directory) (around.startingDocuments language directory root)
  let project := {
    path := path
    name := path.stem
    language := some language
    documents := Path.sort documents.eraseDups
    references := references.flatMap fun item => around.itemPaths directory (attributeText item "Include")
  }
  (project, items.flatMap (itemReports path) ++
    references.flatMap fun item => ItemList.reports path (attributeText item "Include"))

/-- Evaluate a project file; the reports tell which parts of its item lists were passed over. -/
def evaluate (around : Surroundings) (file : Path) : Except ProjectFault (Project × List String) :=
  let path := (around.absolute file).normal
  match Language.of? path with
  | none => .error (.unknownLanguage path)
  | some language =>
    match around.read path.toString with
    | .error .embeddedNull => .error .embeddedNull
    | .error (.refused cause _) => .error (.unreadable path cause)
    | .ok bytes =>
      match Xml.parse bytes with
      | .ok root => .ok (around.describe path language root)
      | .error .malformed => .error (.malformed path)
      | .error (.encoding fault) => .error (.encoding fault)

end Surroundings
end UsingCensus
