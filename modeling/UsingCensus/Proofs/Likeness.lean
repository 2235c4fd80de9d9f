import UsingCensus.Proofs.GrownListings
import UsingCensus.Proofs.Harvesting
import UsingCensus.Proofs.Visits

namespace UsingCensus

namespace FileTree

/-- The same stands at every location; only the files at some of them may hold other bytes. -/
structure Alike (apart : Location → Prop) (tree other : FileTree) : Prop where
  size : other.entries.length = tree.entries.length
  same : ∀ location, ¬ apart location → other.entry? location = tree.entry? location
  files : ∀ location, apart location → ∃ old new,
    tree.entry? location = some (.file old) ∧ other.entry? location = some (.file new)

theorem alike_insert {tree : FileTree} {place : Location} {old : List UInt8}
    (stands : tree.entry? place = some (.file old)) (new : List UInt8) :
    Alike (· = place) tree (tree.insert place (.file new)) where
  size := by
    have below : place ≠ [] := ne_nil_of_not_directory tree (by rw [stands]; simp)
    have present := (entry?_ne_none_iff below).mp (stands ▸ Option.some_ne_none _)
    rw [insert, dif_pos present, List.length_map]
  same := (grown_insert (.inr ⟨old, stands⟩) new).same
  files := by
    rintro location rfl
    obtain ⟨bytes, after⟩ := (grown_insert (.inr ⟨old, stands⟩) new).after location rfl
    exact ⟨old, bytes, stands, after⟩

namespace Alike

variable {apart : Location → Prop} {tree other : FileTree}

theorem symm (alike : Alike apart tree other) : Alike apart other tree where
  size := alike.size.symm
  same := fun location elsewhere => (alike.same location elsewhere).symm
  files := by
    intro location there
    obtain ⟨old, new, before, after⟩ := alike.files location there
    exact ⟨new, old, after, before⟩

theorem entry?_cases (alike : Alike apart tree other) (location : Location) :
    other.entry? location = tree.entry? location ∨
      ∃ old new, tree.entry? location = some (.file old) ∧ other.entry? location = some (.file new) := by
  by_cases there : apart location
  · exact .inr (alike.files location there)
  · exact .inl (alike.same location there)

theorem grown (alike : Alike apart tree other) : Grown apart tree other where
  same := alike.same
  before := fun location there =>
    have ⟨old, _, before, _⟩ := alike.files location there
    .inr ⟨old, before⟩
  after := fun location there =>
    have ⟨_, new, _, after⟩ := alike.files location there
    ⟨new, after⟩

theorem entry?_eq_of_not_file (alike : Alike apart tree other) {location : Location} {entry : Entry}
    (stands : tree.entry? location = some entry) (noFile : entry.kind ≠ .file) :
    other.entry? location = some entry := by
  rcases alike.entry?_cases location with same | ⟨old, new, before, after⟩
  · rw [same, stands]
  · rw [stands] at before
    cases before
    exact absurd rfl noFile

end Alike
end FileTree

namespace Surroundings

/-- The same place in file trees that are alike. -/
structure Alike (apart : Location → Prop) (around other : Surroundings) : Prop where
  tree : FileTree.Alike apart around.tree other.tree
  directory : other.directory = around.directory
  home : other.home = around.home

def rewritten (around : Surroundings) (place : Location) (bytes : List UInt8) : Surroundings :=
  { around with tree := around.tree.insert place (.file bytes) }

theorem alike_rewritten {around : Surroundings} {place : Location} {old : List UInt8}
    (stands : around.tree.entry? place = some (.file old)) (new : List UInt8) :
    Alike (· = place) around (around.rewritten place new) :=
  ⟨FileTree.alike_insert stands new, rfl, rfl⟩

/-- A path that leads to none of some places. -/
def Avoids (around : Surroundings) (apart : Location → Prop) (text : String) : Prop :=
  ∀ location, around.seek true text = .ok location → ¬ apart location

/-- A path whose project file, if its name tells one, is none of those at some places. -/
def AvoidsProject (around : Surroundings) (apart : Location → Prop) (path : Path) : Prop :=
  ∀ language, Language.of? (around.projectKey path) = some language →
    around.Avoids apart (around.projectKey path).toString

namespace Alike

variable {apart : Location → Prop} {around other : Surroundings}

theorem symm (alike : Alike apart around other) : Alike apart other around :=
  ⟨alike.tree.symm, alike.directory.symm, alike.home.symm⟩

theorem grown (alike : Alike apart around other) : Grown apart around other :=
  ⟨alike.tree.grown, alike.directory, alike.home⟩

theorem seek_eq (alike : Alike apart around other) (through : Bool) (text : String) :
    other.seek through text = around.seek through text := by
  rcases alike.grown.seek_cases through text with same | ⟨nowhere, blocked⟩
  · exact same
  · rcases alike.symm.grown.seek_cases through text with same | ⟨other, _⟩
    · exact same.symm
    · cases blocked.symm.trans other

/-- A path leads to the same in both, or to a file in both. -/
theorem find_cases (alike : Alike apart around other) (through : Bool) (text : String) :
    other.find through text = around.find through text ∨
      ∃ old new, around.find through text = .ok (.file old) ∧ other.find through text = .ok (.file new) := by
  unfold find
  rw [alike.seek_eq]
  by_cases null : text.toList.contains '\x00' = true
  · rw [if_pos null, if_pos null]
    exact .inl rfl
  rw [if_neg null, if_neg null]
  cases around.seek through text with
  | error cause => exact .inl rfl
  | ok location =>
    rcases alike.tree.entry?_cases location with same | ⟨old, new, before, after⟩
    · exact .inl (by simp only [same])
    · exact .inr ⟨old, new, by simp only [before], by simp only [after]⟩

theorem find_eq (alike : Alike apart around other) {text : String} (avoids : around.Avoids apart text) :
    other.find true text = around.find true text := by
  unfold find
  rw [alike.seek_eq]
  split
  · rfl
  · cases leads : around.seek true text with
    | error cause => rfl
    | ok location => simp only [alike.tree.same location (avoids location leads)]

/-! ### What patterns and walks find -/

theorem isFile_eq (alike : Alike apart around other) (text : String) :
    other.isFile text = around.isFile text :=
  Bool.eq_iff_iff.mpr ⟨alike.symm.grown.isFile_of_isFile, alike.grown.isFile_of_isFile⟩

theorem walk_eq (alike : Alike apart around other) (enter : Nat → String → Bool) (directory : Path) :
    other.walk enter directory = around.walk enter directory :=
  (alike.symm.grown.walk_sublist (Nat.le_of_eq alike.tree.size) enter directory).antisymm
    (alike.grown.walk_sublist (Nat.le_of_eq alike.tree.size.symm) enter directory)

/-! ### Projects -/

theorem itemPaths_eq (alike : Alike apart around other) (directory : Path) (items : String) :
    other.itemPaths directory items = around.itemPaths directory items :=
  (alike.symm.grown.itemPaths_sublist directory items).antisymm (alike.grown.itemPaths_sublist directory items)

theorem applyItem_eq (alike : Alike apart around other) (directory : Path) (documents : List Path)
    (item : Xml.Element) :
    other.applyItem directory documents item = around.applyItem directory documents item := by
  unfold applyItem includedBy removedBy
  simp only [alike.itemPaths_eq]

theorem describe_eq (alike : Alike apart around other) (path : Path) (language : Language)
    (root : Xml.Element) : other.describe path language root = around.describe path language root := by
  have items : other.applyItem path.parent = around.applyItem path.parent :=
    funext fun documents => funext fun item => alike.applyItem_eq path.parent documents item
  unfold describe startingDocuments defaultItems
  simp only [items, alike.itemPaths_eq, alike.walk_eq]

theorem projectKey_eq (alike : Alike apart around other) (path : Path) :
    other.projectKey path = around.projectKey path := alike.grown.projectKey_eq path

theorem read_eq (alike : Alike apart around other) {text : String} (avoids : around.Avoids apart text) :
    other.read text = around.read text := by
  unfold Surroundings.read
  rw [alike.find_eq avoids]

theorem evaluate_eq (alike : Alike apart around other) {path : Path} (avoids : around.AvoidsProject apart path) :
    other.evaluate path = around.evaluate path := by
  have key : (other.absolute path).normal = around.projectKey path := alike.projectKey_eq path
  have same : (around.absolute path).normal = around.projectKey path := rfl
  unfold evaluate
  simp only [key, same]
  cases known : Language.of? (around.projectKey path) with
  | none => rfl
  | some language => simp only [alike.read_eq (avoids language known), alike.describe_eq]

theorem visit_eq (alike : Alike apart around other) {path : Path} (avoids : around.AvoidsProject apart path) :
    other.visit path = around.visit path := by
  unfold visit probe
  rw [alike.evaluate_eq avoids]
  rcases alike.find_cases true path.toString with same | ⟨old, new, before, after⟩
  · rw [same]
  · rw [before, after]

/-! ### Documents -/

theorem readSource_eq (alike : Alike apart around other) {document : Path}
    (avoids : around.Avoids apart document.toString) :
    other.readSource document = around.readSource document := by
  unfold readSource
  rw [alike.read_eq avoids]

theorem importedBy_eq (alike : Alike apart around other) {document : Path}
    (avoids : around.Avoids apart document.toString) :
    other.importedBy document = around.importedBy document := by
  unfold importedBy
  rw [alike.readSource_eq avoids]

theorem failureOf?_eq (alike : Alike apart around other) {document : Path}
    (avoids : around.Avoids apart document.toString) :
    other.failureOf? document = around.failureOf? document := by
  unfold failureOf?
  rw [alike.readSource_eq avoids]

/-! ### Targets -/

theorem resolveTarget_eq (alike : Alike apart around other) (text : String) :
    other.resolveTarget text = around.resolveTarget text := by
  unfold resolveTarget pathExists isValidPath locateDescriptor firstDescriptor?
  simp only [alike.grown.isDirectory_eq, alike.isFile_eq, alike.walk_eq, alike.grown.expandHome_eq,
    funext alike.grown.canonical_eq]

end Alike
end Surroundings
end UsingCensus
