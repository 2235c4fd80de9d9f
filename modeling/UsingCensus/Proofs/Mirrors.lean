import UsingCensus.Proofs.Listings

/-!
Mirrors: surroundings in which each known text, carried over, leads to what it leads to elsewhere. Main
statements: patterns and walks find the same in both, carried over.
-/
namespace UsingCensus

namespace Wildcard

/-- Where the names below a text are listed. -/
def place (text : String) : String := if text = "" then "." else text

/-- Relative texts of one name after another. -/
inductive Descends (Name : String → Prop) : String → Prop where
  | one {name : String} (named : Name name) : Descends Name name
  | more {name text : String} (named : Name name) (later : Descends Name text) :
      Descends Name (below name text)

/-- Does a part with wildcards meet a name? -/
def meets (part name : String) : Bool := (isHidden part || !isHidden name) && covers part name

/-- What is looked at while everything below a text is gathered is known. -/
def Descendable (Known Name : String → Prop) (text : String) : Prop :=
  ∀ names : List String, (∀ name ∈ names, Name name ∧ isHidden name = false) → Known (names.foldl below text) ∧
    ∀ name, Name name → isHidden name = false → Known (below (place (names.foldl below text)) name)

/-- What is looked at while the parts of a pattern are followed from a text on is known, whatever names its
wildcards meet. -/
def Seekable (Known Name : String → Prop) : List String → String → Prop
  | [], text => Known text
  | part :: rest, text =>
    Known text ∧
    if part = "**" then
      Descendable Known Name text ∧ Seekable Known Name rest (below text "") ∧
        ∀ found, Descends (fun name => Name name ∧ isHidden name = false) found →
          Seekable Known Name rest (below text found)
    else if isPattern part then
      ∀ name, Name name → meets part name = true →
        Known (below (place text) name) ∧ Seekable Known Name rest (below text name)
    else Known (below text part) ∧ Seekable Known Name rest (below text part)

variable {Known Name : String → Prop} {text name : String}

theorem Descendable.known (descendable : Descendable Known Name text) : Known text :=
  (descendable [] (by simp)).1

theorem Descendable.below (descendable : Descendable Known Name text)
    (named : Name name ∧ isHidden name = false) : Descendable Known Name (Wildcard.below text name) := fun names listed =>
  descendable (name :: names) (List.forall_mem_cons.mpr ⟨named, listed⟩)

theorem Seekable.known {parts : List String} (seekable : Seekable Known Name parts text) : Known text := by
  cases parts with
  | nil => exact seekable
  | cons part rest => exact seekable.1

end Wildcard

namespace Surroundings

open Wildcard

/-- Known texts lead to the same kinds of entries and to the same names, which are known names, and are
carried over in their order. -/
structure Mirrors (around other : Surroundings) (carry : String → String) (Known Name : String → Prop) :
    Prop where
  kind : ∀ text, Known text → ∀ through, other.kind? through (carry text) = around.kind? through text
  stands : ∀ text, Known text → ∀ name, other.holdsDirectory (carry text) name = around.holdsDirectory text name
  names : ∀ text, Known text → (other.namesOf (carry text)).Perm (around.namesOf text)
  listed : ∀ text, Known text → ∀ name ∈ around.namesOf text, Name name
  below : ∀ text, Known text → ∀ name, carry (below text name) = Wildcard.below (carry text) name
  place : ∀ text, Known text → Known (place text) ∧ carry (place text) = Wildcard.place (carry text)
  order : ∀ first second, Known first → Known second → (carry first < carry second ↔ first < second)

namespace Mirrors

variable {around other : Surroundings} {carry : String → String} {Known Name : String → Prop}
  {text part : String} {parts rest : List String}

theorem isDirectory (mirrors : Mirrors around other carry Known Name) (known : Known text) :
    other.isDirectory (carry text) = around.isDirectory text := by
  rw [isDirectory_eq, isDirectory_eq, mirrors.kind text known]

theorem isFile (mirrors : Mirrors around other carry Known Name) (known : Known text) :
    other.isFile (carry text) = around.isFile text := by
  rw [isFile_eq, isFile_eq, mirrors.kind text known]

theorem isLink (mirrors : Mirrors around other carry Known Name) (known : Known text) :
    other.isLink (carry text) = around.isLink text := by
  rw [isLink_eq, isLink_eq, mirrors.kind text known]

theorem hasEntry (mirrors : Mirrors around other carry Known Name) (known : Known text) :
    other.hasEntry (carry text) = around.hasEntry text := by
  rw [hasEntry_eq, hasEntry_eq, mirrors.kind text known]

/-! ### Patterns -/

theorem named_of_mem_namesAt (mirrors : Mirrors around other carry Known Name) (known : Known text)
    {foldersOnly : Bool} {name : String} (member : name ∈ around.namesAt foldersOnly text) : Name name := by
  rw [namesAt_eq] at member
  exact mirrors.listed _ (mirrors.place text known).1 name (List.mem_of_mem_filter member)

/-- The same names are met; the others need not be known. -/
theorem namesAt_filter (mirrors : Mirrors around other carry Known Name) (known : Known text)
    {met : String → Bool} (each : ∀ name, Name name → met name = true →
      Known (Wildcard.below (Wildcard.place text) name)) (foldersOnly : Bool) :
    ((other.namesAt foldersOnly (carry text)).filter met).Perm ((around.namesAt foldersOnly text).filter met) := by
  obtain ⟨placed, carried⟩ := mirrors.place text known
  rw [namesAt_eq, namesAt_eq, List.filter_filter, List.filter_filter]
  simp only [← Wildcard.place.eq_1]
  rw [← carried]
  refine ((mirrors.names _ placed).filter _).trans (List.Perm.of_eq (List.filter_congr ?_))
  intro name member
  cases meets : met name with
  | false => rw [Bool.false_and, Bool.false_and]
  | true =>
    rw [← mirrors.below _ placed, mirrors.isDirectory (each name (mirrors.listed _ placed name member) meets)]

theorem descend (mirrors : Mirrors around other carry Known Name) (foldersOnly : Bool) (fuel : Nat)
    (descendable : Descendable Known Name text) :
    (other.descend foldersOnly fuel (carry text)).Perm (around.descend foldersOnly fuel text) := by
  induction fuel generalizing text with
  | zero => exact List.Perm.refl _
  | succ fewer ih =>
    have known := descendable.known
    have same : ((other.namesAt foldersOnly (carry text)).filter (!isHidden ·)).Perm
        ((around.namesAt foldersOnly text).filter (!isHidden ·)) :=
      mirrors.namesAt_filter known (fun name named shown =>
        (descendable [] (by simp)).2 name named (by simpa using shown)) foldersOnly
    rw [Surroundings.descend, Surroundings.descend]
    refine same.flatMap fun name member => ?_
    obtain ⟨listed, shown⟩ := List.mem_filter.mp (same.mem_iff.mp member)
    have named := mirrors.named_of_mem_namesAt known listed
    rw [← mirrors.below text known]
    exact ((ih (descendable.below ⟨named, by simpa using shown⟩)).map _).cons name

theorem descends_of_mem_descend (mirrors : Mirrors around other carry Known Name) {foldersOnly : Bool}
    {fuel : Nat} {found : String} (descendable : Descendable Known Name text)
    (member : found ∈ around.descend foldersOnly fuel text) :
    Descends (fun name => Name name ∧ isHidden name = false) found := by
  induction fuel generalizing text found with
  | zero => cases member
  | succ fewer ih =>
    rw [Surroundings.descend] at member
    obtain ⟨name, listed, member⟩ := List.mem_flatMap.mp member
    obtain ⟨listed, shown⟩ := List.mem_filter.mp listed
    have named : Name name ∧ isHidden name = false :=
      ⟨mirrors.named_of_mem_namesAt descendable.known listed, by simpa using shown⟩
    rcases List.mem_cons.mp member with rfl | later
    · exact .one named
    · obtain ⟨deeper, found, rfl⟩ := List.mem_map.mp later
      exact .more named (ih (descendable.below named) found)

theorem findPart (mirrors : Mirrors around other carry Known Name) (foldersOnly : Bool)
    (seekable : Seekable Known Name (part :: rest) text) :
    (other.findPart foldersOnly (carry text) part).Perm (around.findPart foldersOnly text part) ∧
      ∀ name ∈ around.findPart foldersOnly text part, Seekable Known Name rest (Wildcard.below text name) := by
  obtain ⟨known, further⟩ := seekable
  unfold Surroundings.findPart
  by_cases stars : part = "**"
  · rw [if_pos stars] at further
    obtain ⟨descendable, here, later⟩ := further
    rw [if_pos stars, if_pos stars]
    refine ⟨(mirrors.descend foldersOnly _ descendable).cons "", ?_⟩
    intro name member
    rcases List.mem_cons.mp member with rfl | member
    · exact here
    · exact later name (mirrors.descends_of_mem_descend descendable member)
  rw [if_neg stars] at further
  rw [if_neg stars, if_neg stars]
  by_cases pattern : isPattern part = true
  · rw [if_pos pattern] at further
    rw [if_pos pattern, if_pos pattern]
    have same := mirrors.namesAt_filter known (fun name named met => (further name named met).1) foldersOnly
    refine ⟨same, fun name member => ?_⟩
    obtain ⟨listed, met⟩ := List.mem_filter.mp member
    exact (further name (mirrors.named_of_mem_namesAt known listed) met).2
  rw [if_neg pattern] at further
  rw [if_neg pattern, if_neg pattern]
  by_cases empty : part = ""
  · subst empty
    rw [if_pos rfl, if_pos rfl, mirrors.isDirectory known]
    refine ⟨List.Perm.refl _, fun name member => ?_⟩
    split at member
    · rw [List.mem_singleton.mp member]
      exact further.2
    · cases member
  · rw [if_neg empty, if_neg empty, ← mirrors.below text known, mirrors.hasEntry further.1]
    refine ⟨List.Perm.refl _, fun name member => ?_⟩
    split at member
    · rw [List.mem_singleton.mp member]
      exact further.2
    · cases member

theorem findParts (mirrors : Mirrors around other carry Known Name)
    (seekable : Seekable Known Name parts text) :
    (other.findParts (carry text) parts).Perm ((around.findParts text parts).map carry) ∧
      ∀ found ∈ around.findParts text parts, Known found := by
  induction parts generalizing text with
  | nil => exact ⟨List.Perm.refl _, fun found member => List.mem_singleton.mp member ▸ seekable⟩
  | cons part rest ih =>
    obtain ⟨same, later⟩ := mirrors.findPart (!rest.isEmpty) seekable
    rw [Surroundings.findParts, Surroundings.findParts, List.map_flatMap]
    constructor
    · refine same.flatMap fun name member => ?_
      rw [← mirrors.below text seekable.known]
      exact (ih (later name (same.mem_iff.mp member))).1
    · intro found member
      obtain ⟨name, listed, member⟩ := List.mem_flatMap.mp member
      exact (ih (later name listed)).2 found member

/-- Patterns of the same parts, the plain text before them carried over, find the same in the same order. -/
theorem expand (mirrors : Mirrors around other carry Known Name) {pattern carried : String}
    (seekable : Seekable Known Name (splitPattern pattern).2 (splitPattern pattern).1)
    (split : splitPattern carried = (carry (splitPattern pattern).1, (splitPattern pattern).2)) :
    other.expand carried = (around.expand pattern).map carry ∧
      ∀ found ∈ around.expand pattern, Known found := by
  obtain ⟨same, known⟩ := mirrors.findParts seekable
  unfold Surroundings.expand
  simp only [split]
  constructor
  · rw [sortNames_eq_of_perm same]
    exact (map_sortNames fun a first b second => mirrors.order a b (known a first) (known b second)).symm
  · exact fun found member => known found (mem_sortNames.mp member)

/-! ### Walks -/

/-- The path's text is known, and carried over as the path is. -/
def Lies (carry : String → String) (Known : String → Prop) (carryPath : Path → Path) (path : Path) : Prop :=
  Known path.toString ∧ (carryPath path).toString = carry path.toString

/-- Names of folders that are entered one below the other. -/
def Entered (enter : Nat → String → Bool) : Nat → List String → Prop
  | _, [] => True
  | depth, name :: more => enter depth name = true ∧ Entered enter (depth + 1) more

/-- What a walk looks at below a directory is known. -/
def Walkable (carry : String → String) (Known Name : String → Prop) (carryPath : Path → Path)
    (enter : Nat → String → Bool) (depth : Nat) (directory : Path) : Prop :=
  ∀ names : List String, (∀ name ∈ names, Name name) → Entered enter depth names →
    Lies carry Known carryPath (names.foldl Path.child directory) ∧
      ∀ name, Name name → Lies carry Known carryPath ((names.foldl Path.child directory).child name) ∧
        carryPath ((names.foldl Path.child directory).child name) =
          (carryPath (names.foldl Path.child directory)).child name

theorem filesBelow (mirrors : Mirrors around other carry Known Name) {carryPath : Path → Path}
    {enter : Nat → String → Bool} {depth : Nat} {directory : Path}
    (walkable : Walkable carry Known Name carryPath enter depth directory) (absolute : directory.isAbsolute = true)
    (alsoAbsolute : (carryPath directory).isAbsolute = true) (fuel : Nat) :
    other.filesBelow enter fuel depth (carryPath directory) =
      (around.filesBelow enter fuel depth directory).map carryPath := by
  induction fuel generalizing depth directory with
  | zero => rfl
  | succ fewer ih =>
    obtain ⟨⟨known, spelled⟩, children⟩ := walkable [] (by simp) trivial
    simp only [List.foldl_nil] at known spelled children
    have deeper {name : String} (named : Name name) (entered : enter depth name = true) :
        Walkable carry Known Name carryPath enter (depth + 1) (directory.child name) := fun names listed later =>
      walkable (name :: names) (List.forall_mem_cons.mpr ⟨named, listed⟩) ⟨entered, later⟩
    have step {name : String} (named : Name name) :
        other.leadsToDirectory depth (carryPath directory) name = around.leadsToDirectory depth directory name ∧
          other.isLink (((carryPath directory).child name).spelled (depth + 1)) =
            around.isLink ((directory.child name).spelled (depth + 1)) := by
      obtain ⟨⟨here, carried⟩, child⟩ := children name named
      have one : ((carryPath directory).child name).isAbsolute = true := alsoAbsolute
      have two : (directory.child name).isAbsolute = true := absolute
      unfold leadsToDirectory
      rw [Path.spelled_eq one, Path.spelled_eq alsoAbsolute, Path.spelled_eq two, Path.spelled_eq absolute, ← child,
        carried, spelled, mirrors.isDirectory here, mirrors.stands _ known]
      exact ⟨rfl, mirrors.isLink here⟩
    have names : sortNames (other.namesOf ((carryPath directory).spelled depth)) =
        sortNames (around.namesOf (directory.spelled depth)) := by
      rw [Path.spelled_eq alsoAbsolute, Path.spelled_eq absolute, spelled]
      exact sortNames_eq_of_perm (mirrors.names _ known)
    have named : ∀ name ∈ sortNames (around.namesOf (directory.spelled depth)), Name name := by
      intro name member
      rw [Path.spelled_eq absolute] at member
      exact mirrors.listed _ known name (mem_sortNames.mp member)
    rw [Surroundings.filesBelow, Surroundings.filesBelow]
    simp only [names, List.map_append, List.map_map, List.map_flatMap]
    congr 1
    · rw [List.filter_congr fun name member => by rw [(step (named name member)).1]]
      exact List.map_congr_left fun name member =>
        (children name (named name (List.mem_of_mem_filter member))).2.symm
    · rw [List.filter_congr fun name member => by
        rw [(step (named name member)).1, (step (named name member)).2]]
      refine List.flatMap_congr fun name member => ?_
      obtain ⟨listed, entered⟩ := List.mem_filter.mp member
      simp only [Bool.and_eq_true] at entered
      have known := named name listed
      have child := (children name known).2
      rw [← child]
      exact ih (deeper known entered.1.2) absolute (child ▸ alsoAbsolute)

end Mirrors
end Surroundings
end UsingCensus
