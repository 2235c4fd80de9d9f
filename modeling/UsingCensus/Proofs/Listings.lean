import Mathlib.Data.List.Perm.Basic
import UsingCensus.Proofs.Following
import UsingCensus.Wildcard.Expansion

namespace UsingCensus

/-! ### Names in order -/

theorem string_le_of_not_lt {a b : String} (notLess : (!decide (b < a)) = true) : a ≤ b :=
  String.not_lt.mp (by simpa using notLess)

theorem pairwise_sortNames (names : List String) : (sortNames names).Pairwise (· ≤ ·) := by
  have trans (a b c : String) (one : (!decide (b < a)) = true) (two : (!decide (c < b)) = true) :
      (!decide (c < a)) = true := by
    have whole := String.le_trans (string_le_of_not_lt one) (string_le_of_not_lt two)
    simpa using String.not_lt.mpr whole
  have total (a b : String) : ((!decide (b < a)) || (!decide (a < b))) = true := by
    simpa using (String.le_total a b).imp String.not_lt.mpr String.not_lt.mpr
  exact (List.pairwise_mergeSort trans total names).imp string_le_of_not_lt

theorem sortNames_perm (names : List String) : (sortNames names).Perm names := List.mergeSort_perm _ _

theorem sortNames_eq_of_perm {first second : List String} (same : first.Perm second) :
    sortNames first = sortNames second := by
  refine List.Perm.eq_of_pairwise ?_ (pairwise_sortNames first) (pairwise_sortNames second)
    ((sortNames_perm first).trans (same.trans (sortNames_perm second).symm))
  exact fun a b _ _ below above => String.le_antisymm below above

theorem map_sortNames {carry : String → String} {names : List String}
    (order : ∀ a ∈ names, ∀ b ∈ names, (carry a < carry b ↔ a < b)) :
    (sortNames names).map carry = sortNames (names.map carry) := by
  refine List.map_mergeSort fun a first b second => ?_
  simp only [order b second a first]

theorem mem_sortNames {name : String} {names : List String} : name ∈ sortNames names ↔ name ∈ names :=
  List.mem_mergeSort

/-! ### Names in a directory -/

theorem Path.spelled_eq {path : Path} (absolute : path.isAbsolute = true) (depth : Nat) :
    path.spelled depth = path.toString := by
  unfold spelled
  rw [if_neg]
  rintro ⟨here, _⟩
  rw [isAbsolute, here] at absolute
  cases absolute

namespace FileTree

variable {tree other : FileTree} {directory elsewhere : Location} {name : String}

theorem entry?_ne_none_iff {location : Location} (below : location ≠ []) :
    tree.entry? location ≠ none ↔ location ∈ tree.entries.map Prod.fst := by
  unfold entry?
  rw [if_neg below]
  constructor
  · intro standing
    obtain ⟨entry, found⟩ := Option.ne_none_iff_exists'.mp standing
    obtain ⟨old, found, _⟩ := Option.map_eq_some_iff.mp found
    have same : old.1 = location := by simpa using List.find?_some found
    exact same ▸ List.mem_map_of_mem (List.mem_of_find?_eq_some found)
  · intro member missing
    obtain ⟨old, found, same⟩ := List.mem_map.mp member
    have absent := List.find?_eq_none.mp (Option.map_eq_none_iff.mp missing) old found
    simp [same] at absent

theorem entry?_insert (tree : FileTree) {place : Location} (below : place ≠ []) (entry : Entry)
    (location : Location) :
    entry? (tree.insert place entry) location = if location = place then some entry else tree.entry? location := by
  have replaced (entries : List (Location × Entry)) :
      ((entries.map fun old => if old.1 = place then (place, entry) else old).find? (·.1 = location)).map
          Prod.snd =
        if location = place then ((entries.find? (·.1 = place)).map fun _ => entry)
        else (entries.find? (·.1 = location)).map Prod.snd := by
    induction entries with
    | nil => simp
    | cons old rest ih =>
      by_cases here : old.1 = place
      · by_cases asked : location = place
        · simp [here, asked]
        · simpa [here, asked, Ne.symm asked] using ih
      · by_cases asked : location = place
        · subst asked
          simpa [here] using ih
        · by_cases found : old.1 = location
          · simp [asked, found]
          · simpa [here, asked, found] using ih
  unfold entry?
  by_cases top : location = []
  · rw [if_pos top, if_pos top, if_neg (fun same => below (same.symm.trans top))]
  rw [if_neg top, if_neg top, insert]
  split
  · rename_i present
    rw [replaced]
    by_cases asked : location = place
    · obtain ⟨old, member, named⟩ := List.mem_map.mp present
      cases found : tree.entries.find? (·.1 = place) with
      | some standing => simp [asked]
      | none =>
        have absent := List.find?_eq_none.mp found old member
        simp [named] at absent
    · rw [if_neg asked, if_neg asked]
  · rename_i absent
    rw [List.find?_append]
    by_cases asked : location = place
    · have missing : tree.entries.find? (·.1 = location) = none := by
        refine List.find?_eq_none.mpr fun old member => ?_
        have different : old.1 ≠ place := fun named => absent (named ▸ List.mem_map_of_mem member)
        simpa [asked] using different
      rw [missing]
      simp [asked]
    · simp [asked, Ne.symm asked]

private theorem listed_iff {entry : Location × Entry} :
    (match entry.1.getLast? with
      | some name => if entry.1.dropLast = directory then some name else none
      | none => none) = some name ↔ entry.1 = directory ++ [name] := by
  obtain ⟨location, entry⟩ := entry
  dsimp only
  cases last : location.getLast? with
  | none =>
    rw [List.getLast?_eq_none_iff.mp last]
    simp
  | some final =>
    obtain ⟨start, rfl⟩ := List.getLast?_eq_some_iff.mp last
    simp only [List.dropLast_concat, Option.ite_none_right_eq_some, Option.some.injEq]
    constructor
    · rintro ⟨rfl, rfl⟩
      rfl
    · intro same
      exact ⟨(List.append_inj' same rfl).1, by simpa using (List.append_inj' same rfl).2⟩

theorem mem_children_iff : name ∈ tree.children directory ↔ tree.entry? (directory ++ [name]) ≠ none := by
  rw [entry?_ne_none_iff (by simp), children, List.mem_filterMap]
  constructor
  · rintro ⟨entry, member, listed⟩
    exact listed_iff.mp listed ▸ List.mem_map_of_mem member
  · intro member
    obtain ⟨entry, member, same⟩ := List.mem_map.mp member
    exact ⟨entry, member, listed_iff.mpr same⟩

theorem nodup_children (tree : FileTree) (directory : Location) : (tree.children directory).Nodup := by
  have apart : tree.entries.Pairwise fun a b => a.1 ≠ b.1 := List.pairwise_map.mp tree.nodup
  refine List.pairwise_filterMap.mpr (apart.imp ?_)
  intro a b different first listed second also same
  have one := listed_iff.mp listed
  have two := listed_iff.mp also
  exact different (by rw [one, two, same])

theorem children_perm (same : ∀ name,
    other.entry? (elsewhere ++ [name]) = none ↔ tree.entry? (directory ++ [name]) = none) :
    (other.children elsewhere).Perm (tree.children directory) := by
  refine (List.perm_ext_iff_of_nodup (nodup_children other _) (nodup_children tree _)).mpr fun name => ?_
  rw [mem_children_iff, mem_children_iff, ne_eq, ne_eq, same]

end FileTree

theorem eq_ok_of_toOption {ε α : Type} {result : Except ε α} {value : α} (yields : result.toOption = some value) :
    result = .ok value := by
  cases result with
  | error fault => cases yields
  | ok other =>
    cases yields
    rfl

/-! ### What a path leads to -/

/-- What an entry is, whatever it holds. -/
inductive EntryKind where
  | file
  | directory
  | link
  deriving DecidableEq, Repr

def Entry.kind : Entry → EntryKind
  | file _ => .file
  | directory => .directory
  | link _ => .link

namespace Surroundings

open FileTree

def kind? (around : Surroundings) (through : Bool) (text : String) : Option EntryKind :=
  match around.find through text with
  | .ok entry => some entry.kind
  | .error _ => none

variable {around : Surroundings} {text : String}

theorem kind?_eq_some_iff {through : Bool} {kind : EntryKind} :
    around.kind? through text = some kind ↔ '\x00' ∉ text.toList ∧ ∃ location entry,
      around.seek through text = .ok location ∧ around.tree.entry? location = some entry ∧ entry.kind = kind := by
  unfold kind? find
  by_cases null : '\x00' ∈ text.toList
  · rw [if_pos (by simpa using null)]
    simp [null]
  rw [if_neg (by simpa using null)]
  cases around.seek through text with
  | error cause => simp
  | ok location =>
    cases stands : around.tree.entry? location with
    | none => simp [stands]
    | some entry => simp [stands, null]

theorem isDirectory_eq (around : Surroundings) (text : String) :
    around.isDirectory text = decide (around.kind? true text = some .directory) := by
  unfold isDirectory kind?
  cases around.find true text with
  | error fault => simp
  | ok entry => cases entry <;> simp [Entry.kind]

theorem isFile_eq (around : Surroundings) (text : String) :
    around.isFile text = decide (around.kind? true text = some .file) := by
  unfold isFile kind?
  cases around.find true text with
  | error fault => simp
  | ok entry => cases entry <;> simp [Entry.kind]

theorem isLink_eq (around : Surroundings) (text : String) :
    around.isLink text = decide (around.kind? false text = some .link) := by
  unfold isLink kind?
  cases around.find false text with
  | error fault => simp
  | ok entry => cases entry <;> simp [Entry.kind]

theorem hasEntry_eq (around : Surroundings) (text : String) :
    around.hasEntry text = (around.kind? false text).isSome := by
  unfold hasEntry kind?
  cases around.find false text <;> rfl

theorem namesAt_eq (around : Surroundings) (foldersOnly : Bool) (directory : String) :
    around.namesAt foldersOnly directory =
      (around.namesOf (if directory = "" then "." else directory)).filter fun name =>
        !foldersOnly ||
          around.isDirectory (Wildcard.below (if directory = "" then "." else directory) name) := by
  unfold namesAt namesOf
  dsimp only
  cases around.list (if directory = "" then "." else directory) <;> rfl

/-! ### Where something stands -/

def locate? (around : Surroundings) (through : Bool) (text : String) : Option Location :=
  if '\x00' ∈ text.toList then none
  else (around.seek through text).toOption.filter fun location => (around.tree.entry? location).isSome

theorem readable_of_locate? {through : Bool} {location : Location}
    (found : around.locate? through text = some location) : '\x00' ∉ text.toList := by
  intro null
  unfold locate? at found
  rw [if_pos null] at found
  cases found

theorem seek_of_locate? {through : Bool} {location : Location}
    (found : around.locate? through text = some location) : around.seek through text = .ok location := by
  unfold locate? at found
  split at found
  · cases found
  · exact eq_ok_of_toOption (Option.filter_eq_some_iff.mp found).1

theorem toOption_find (around : Surroundings) (through : Bool) (text : String) :
    (around.find through text).toOption = (around.locate? through text).bind around.tree.entry? := by
  unfold find locate?
  by_cases null : '\x00' ∈ text.toList
  · rw [if_pos (by simpa using null), if_pos null]
    rfl
  rw [if_neg (by simpa using null), if_neg null]
  cases around.seek through text with
  | error cause => rfl
  | ok location => cases stands : around.tree.entry? location <;> simp [Except.toOption, Option.filter_some, stands]

theorem kind?_eq (around : Surroundings) (through : Bool) (text : String) :
    around.kind? through text = ((around.locate? through text).bind around.tree.entry?).map Entry.kind := by
  rw [← toOption_find]
  unfold kind?
  cases around.find through text <;> rfl

theorem namesOf_eq (around : Surroundings) (text : String) :
    around.namesOf text = (around.locate? true text).elim [] fun location =>
      if around.tree.entry? location = some .directory then around.tree.children location else [] := by
  unfold namesOf list locate?
  by_cases null : '\x00' ∈ text.toList
  · rw [if_pos (by simpa using null), if_pos null]
    rfl
  rw [if_neg (by simpa using null), if_neg null]
  cases around.seek true text with
  | error cause => rfl
  | ok location =>
    cases stands : around.tree.entry? location with
    | none => simp [Except.toOption, Option.filter_some, stands]
    | some entry => cases entry <;> simp [Except.toOption, Option.filter_some, stands]

theorem holdsDirectory_eq (around : Surroundings) (text name : String) :
    around.holdsDirectory text name = (around.locate? true text).any fun location =>
      around.tree.entry? location = some .directory && around.tree.entry? (location ++ [name]) = some .directory := by
  unfold holdsDirectory locate?
  by_cases null : '\x00' ∈ text.toList
  · rw [if_pos (by simpa using null), if_pos null]
    rfl
  rw [if_neg (by simpa using null), if_neg null]
  cases around.seek true text with
  | error cause => rfl
  | ok location =>
    cases stands : around.tree.entry? location with
    | none => simp [Except.toOption, Option.filter_some, stands]
    | some entry => simp [Except.toOption, Option.filter_some, stands]

theorem exists_of_mem_namesOf {name : String} (listed : name ∈ around.namesOf text) :
    ∃ location, around.seek true text = .ok location ∧ around.tree.entry? location = some .directory ∧
      around.tree.entry? (location ++ [name]) ≠ none := by
  rw [namesOf_eq] at listed
  cases found : around.locate? true text with
  | none =>
    rw [found] at listed
    cases listed
  | some location =>
    rw [found, Option.elim_some] at listed
    split at listed
    · rename_i directory
      exact ⟨location, seek_of_locate? found, directory, mem_children_iff.mp listed⟩
    · cases listed

/-! ### No links -/

def Linkless (around : Surroundings) : Prop := ∀ entry ∈ around.tree.entries, entry.2.kind ≠ .link

theorem Linkless.plain (linkless : around.Linkless) (location : Location) (target : String) :
    around.tree.entry? location ≠ some (.link target) := by
  intro found
  unfold FileTree.entry? at found
  split at found
  · cases found
  · obtain ⟨entry, standing, same⟩ := Option.map_eq_some_iff.mp found
    have kept := linkless entry (List.mem_of_find?_eq_some standing)
    rw [same] at kept
    exact kept rfl

end Surroundings
end UsingCensus
