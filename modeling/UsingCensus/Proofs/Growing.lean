import UsingCensus.FileTree.Append
import UsingCensus.Proofs.Carrying

namespace UsingCensus

namespace FileTree

/-- The same stands at every other location; at the grown ones stands a file, where there was one or nothing. -/
structure Grown (grown : Location → Prop) (tree other : FileTree) : Prop where
  same : ∀ location, ¬ grown location → other.entry? location = tree.entry? location
  before : ∀ location, grown location →
    tree.entry? location = none ∨ ∃ old, tree.entry? location = some (.file old)
  after : ∀ location, grown location → ∃ new, other.entry? location = some (.file new)

def bytesAt (tree : FileTree) (location : Location) : List UInt8 :=
  match tree.entry? location with
  | some (.file bytes) => bytes
  | _ => []

theorem ne_nil_of_not_directory (tree : FileTree) {location : Location} (other : tree.entry? location ≠ some .directory) :
    location ≠ [] := by
  rintro rfl
  exact other rfl

theorem grown_insert {tree : FileTree} {place : Location}
    (free : tree.entry? place = none ∨ ∃ old, tree.entry? place = some (.file old)) (new : List UInt8) :
    Grown (· = place) tree (tree.insert place (.file new)) := by
  have below : place ≠ [] := ne_nil_of_not_directory tree (by
    rcases free with missing | ⟨old, file⟩ <;> simp [*])
  refine ⟨fun location elsewhere => ?_, fun location here => here ▸ free, fun location here => ⟨new, ?_⟩⟩
  · rw [entry?_insert tree below, if_neg elsewhere]
  · rw [entry?_insert tree below, if_pos here]

theorem entry?_append (tree : FileTree) {place : Location} {old : List UInt8}
    (file : tree.entry? place = some (.file old)) (bytes : List UInt8) (location : Location) :
    FileTree.entry? (tree.append place bytes) location =
      if location = place then some (.file (old ++ bytes)) else tree.entry? location := by
  unfold append
  rw [file]
  exact entry?_insert tree (ne_nil_of_not_directory tree (by rw [file]; simp)) _ location

namespace Grown

variable {grown : Location → Prop} {tree other : FileTree} {here : Location} {links : Nat} {rest : List String}

theorem refl (files : ∀ location, grown location → ∃ old, tree.entry? location = some (.file old)) :
    Grown grown tree tree :=
  ⟨fun _ _ => rfl, fun location here => .inr (files location here), files⟩

/-- What stands at a location still stands there, or a file stands where a file or nothing stood. -/
theorem entry?_cases (grows : Grown grown tree other) (location : Location) :
    other.entry? location = tree.entry? location ∨
      (tree.entry? location = none ∧ ∃ new, other.entry? location = some (.file new)) ∨
      ∃ old new, tree.entry? location = some (.file old) ∧ other.entry? location = some (.file new) := by
  by_cases there : grown location
  · obtain ⟨new, after⟩ := grows.after location there
    rcases grows.before location there with missing | ⟨old, file⟩
    · exact .inr (.inl ⟨missing, new, after⟩)
    · exact .inr (.inr ⟨old, new, file, after⟩)
  · exact .inl (grows.same location there)

theorem entry?_eq_iff (grows : Grown grown tree other) {location : Location} {entry : Entry}
    (noFile : entry.kind ≠ .file) : other.entry? location = some entry ↔ tree.entry? location = some entry := by
  have different {bytes : List UInt8} : (some (Entry.file bytes)) ≠ some entry := by
    rintro same
    exact noFile (Option.some.inj same ▸ rfl)
  rcases grows.entry?_cases location with same | ⟨missing, new, after⟩ | ⟨old, new, before, after⟩
  · rw [same]
  · rw [missing, after]
    exact ⟨fun same => absurd same different, fun absent => by cases absent⟩
  · rw [before, after]
    exact ⟨fun same => absurd same different, fun same => absurd same different⟩

theorem directory_iff (grows : Grown grown tree other) {location : Location} :
    other.entry? location = some .directory ↔ tree.entry? location = some .directory :=
  grows.entry?_eq_iff (by simp [Entry.kind])

theorem link_iff (grows : Grown grown tree other) {location : Location} {target : String} :
    other.entry? location = some (.link target) ↔ tree.entry? location = some (.link target) :=
  grows.entry?_eq_iff (by simp [Entry.kind])

theorem blocked_cases (grows : Grown grown tree other) (through : Bool) (links : Nat) (name : String)
    (more : List String) (closed : tree.entry? here ≠ some .directory) :
    other.follow through links here (name :: more) =
        .error (if (tree.entry? here).isNone then .notFound else .notDirectory) ∨
      (tree.entry? here = none ∧ other.follow through links here (name :: more) = .error .notDirectory) := by
  rw [follow_blocked (mt grows.directory_iff.mp closed)]
  rcases grows.entry?_cases here with same | ⟨missing, new, after⟩ | ⟨old, new, before, after⟩
  · exact .inl (by rw [same])
  · exact .inr ⟨missing, by rw [after]; rfl⟩
  · exact .inl (by rw [before, after]; rfl)

/-- A path leads where it led. If it led nowhere it still does, though a file may be in its way now. -/
theorem follow_cases (grows : Grown grown tree other) (through : Bool) (links : Nat) (here : Location)
    (rest : List String) :
    other.follow through links here rest = tree.follow through links here rest ∨
      (tree.follow through links here rest = .error .notFound ∧
        other.follow through links here rest = .error .notDirectory) := by
  fun_induction follow tree through links here rest with
  | case1 => exact .inl (by rw [follow])
  | case2 links here name more missing =>
    have closed := grows.blocked_cases through links name more (by rw [missing]; simp)
    rw [missing] at closed
    exact closed.imp_right fun now => ⟨rfl, now.2⟩
  | case3 links here name more bytes file =>
    have closed := grows.blocked_cases through links name more (by rw [file]; simp)
    rw [file] at closed
    exact closed.imp_right fun now => by cases now.1
  | case4 links here name more target link =>
    have closed := grows.blocked_cases through links name more (by rw [link]; simp)
    rw [link] at closed
    exact closed.imp_right fun now => by cases now.1
  | case5 links here name more stands long =>
    left
    rw [follow]
    simp only [grows.directory_iff.mpr stands, if_pos long]
  | case6 links here more stands _ ih =>
    rw [follow_special (grows.directory_iff.mpr stands) (.inl rfl)]
    exact ih
  | case7 links here more stands _ _ ih =>
    rw [follow_special (grows.directory_iff.mpr stands) (.inr rfl)]
    exact ih
  | case8 links here name more stands long dot dots next target found last =>
    have link : other.entry? (here ++ [name]) = some (.link target) := grows.link_iff.mpr found
    left
    rw [follow_name (grows.directory_iff.mpr stands) long ⟨dot, dots⟩]
    simp only [link, if_pos last, next]
  | case9 here name more stands long dot dots next target found last =>
    have link : other.entry? (here ++ [name]) = some (.link target) := grows.link_iff.mpr found
    left
    rw [follow_name (grows.directory_iff.mpr stands) long ⟨dot, dots⟩]
    simp only [link, if_neg last]
    rfl
  | case10 here name more stands long dot dots next target found last fewer ih =>
    have link : other.entry? (here ++ [name]) = some (.link target) := grows.link_iff.mpr found
    rw [follow_name (grows.directory_iff.mpr stands) long ⟨dot, dots⟩]
    simp only [link, if_neg last]
    exact ih
  | case11 links here name more stands long dot dots next plain ih =>
    rw [follow_name (grows.directory_iff.mpr stands) long ⟨dot, dots⟩]
    split
    · rename_i target found
      exact absurd (grows.link_iff.mp found) (plain target)
    · exact ih

end Grown
end FileTree

namespace Surroundings

open FileTree

/-- The same place in a file tree that has grown. -/
structure Grown (grown : Location → Prop) (around other : Surroundings) : Prop where
  tree : FileTree.Grown grown around.tree other.tree
  directory : other.directory = around.directory
  home : other.home = around.home

namespace Grown

variable {grown : Location → Prop} {around other : Surroundings} {text : String} {location : Location}

theorem settled (grows : Grown grown around other) (settled : around.Settled) : other.Settled where
  legal := grows.directory ▸ settled.legal
  standing := fun place prefixed =>
    grows.tree.directory_iff.mpr (settled.standing place (grows.directory ▸ prefixed))

theorem seek_cases (grows : Grown grown around other) (through : Bool) (text : String) :
    other.seek through text = around.seek through text ∨
      (around.seek through text = .error .notFound ∧ other.seek through text = .error .notDirectory) := by
  unfold seek
  rw [grows.directory]
  split
  · exact .inl rfl
  · split
    · exact .inl rfl
    · exact grows.tree.follow_cases through _ _ _

theorem seek_of_seek (grows : Grown grown around other) {through : Bool}
    (leads : around.seek through text = .ok location) : other.seek through text = .ok location := by
  rcases grows.seek_cases through text with same | ⟨nowhere, _⟩
  · rw [same, leads]
  · rw [leads] at nowhere
    cases nowhere

end Grown

/-! ### Files that are opened at their end -/

/-- A file is opened where the path leads. It is new if nothing stood there. -/
structure Opens (around : Surroundings) (text : String) (location : Location) (opened : Surroundings) : Prop where
  leads : around.seek true text = .ok location
  grown : Grown (· = location) around opened
  bytes : opened.tree.entry? location = some (.file (around.tree.bytesAt location))

theorem opens_of_openForAppending {around opened : Surroundings} (settled : around.Settled) {text : String}
    {location : Location} (opens : around.openForAppending text = .ok (location, opened)) :
    Opens around text location opened := by
  unfold openForAppending at opens
  split at opens
  · cases opens
  split at opens
  · cases opens
  rename_i leads
  split at opens
  · cases opens
  · rename_i entry different stands
    cases opens
    obtain ⟨_, _, followed⟩ := seek_eq_ok_iff.mp leads
    have noLink := not_link_of_follow (settled.lies text) (fun target linked => by
      rw [settled.start text] at linked
      cases linked) followed
    have file : ∃ old, around.tree.entry? location = some (.file old) := by
      cases entry with
      | file old => exact ⟨old, stands⟩
      | directory => exact absurd rfl different
      | link target => exact absurd stands (noLink target)
    obtain ⟨old, file⟩ := file
    refine ⟨leads, ⟨FileTree.Grown.refl fun location here => ⟨old, here ▸ file⟩, rfl, rfl⟩, ?_⟩
    unfold bytesAt
    rw [file]
  · rename_i missing
    cases opens
    have below : location ≠ [] := ne_nil_of_not_directory around.tree (by rw [missing]; simp)
    refine ⟨leads, ⟨grown_insert (.inl missing) [], rfl, rfl⟩, ?_⟩
    unfold bytesAt
    rw [missing, entry?_insert _ below, if_pos rfl]

end Surroundings
end UsingCensus
