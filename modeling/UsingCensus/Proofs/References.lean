import UsingCensus.Proofs.Following
import UsingCensus.Workspace.Loading

namespace UsingCensus

theorem Language.of?_congr {path other : Path} (same : path.name = other.name) :
    Language.of? path = Language.of? other := by
  unfold Language.of? Path.suffix
  rw [same]

namespace Path

/-- The text starts at the root directory. -/
def Rooted (text : String) : Prop := ∃ rest, text.toList = '/' :: rest

theorem Rooted.of_prefix {text longer : String} (rooted : Rooted text)
    (extends_ : text.toList <+: longer.toList) : Rooted longer := by
  obtain ⟨rest, same⟩ := rooted
  obtain ⟨more, extended⟩ := extends_
  exact ⟨rest ++ more, by rw [← extended, same, List.cons_append]⟩

theorem rooted_of_startsIn {text : String} (starts : Text.startsIn text "/" = true) : Rooted text := by
  obtain ⟨rest, same⟩ := List.isPrefixOf_iff_prefix.mp starts
  exact ⟨rest, same.symm⟩

theorem rooted_toString {path : Path} (absolute : path.isAbsolute = true) : Rooted path.toString := by
  obtain ⟨anchor, parts⟩ := path
  cases anchor with
  | here => cases absolute
  | root => exact ⟨(String.intercalate "/" parts).toList, by simp [Path.toString, Anchor.text]⟩
  | doubleRoot => exact ⟨'/' :: (String.intercalate "/" parts).toList, by simp [Path.toString, Anchor.text]⟩

theorem isAbsolute_ofString {text : String} (rooted : Rooted text) :
    (ofString text).isAbsolute = true := by
  obtain ⟨rest, same⟩ := rooted
  unfold ofString anchorOf isAbsolute
  rw [same]
  simp only [List.takeWhile_cons, decide_true, if_true, List.length_cons]
  split <;> simp_all

end Path

namespace Wildcard

theorem rooted_below {directory : String} (rooted : Path.Rooted directory) (name : String) :
    Path.Rooted (below directory name) := by
  have some : directory ≠ "" := by
    rintro rfl
    obtain ⟨rest, same⟩ := rooted
    cases same
  unfold below
  rw [if_neg some]
  split
  · exact rooted
  · split
    · exact rooted.of_prefix (by simp)
    · exact rooted.of_prefix (by simp)

private theorem rooted_of_shorter {base kept : String} (rooted : Path.Rooted base)
    (shorter : kept.toList <+: base.toList) (filled : kept ≠ "") : Path.Rooted kept := by
  obtain ⟨rest, same⟩ := rooted
  rw [same] at shorter
  cases characters : kept.toList with
  | nil => exact absurd (String.toList_eq_nil_iff.mp characters) filled
  | cons c more =>
    rw [characters] at shorter
    exact ⟨more, by rw [characters, (List.cons_prefix_cons.mp shorter).1]⟩

theorem rooted_splitPattern {pattern : String} (rooted : Path.Rooted pattern) :
    Path.Rooted (splitPattern pattern).1 := by
  obtain ⟨rest, same⟩ := rooted
  have first : ∃ more, (Path.pieces pattern).takeWhile (!isPattern ·) = "" :: more := by
    unfold Path.pieces
    rw [same]
    exact ⟨_, rfl⟩
  obtain ⟨more, plain⟩ := first
  unfold splitPattern
  simp only [plain]
  cases more with
  | nil => exact ⟨[], by simp [String.intercalate_singleton]⟩
  | cons next others =>
    have based : Path.Rooted (String.intercalate "/" ("" :: next :: others)) :=
      ⟨(String.intercalate "/" (next :: others)).toList, by simp [String.intercalate_cons_cons]⟩
    revert based
    generalize String.intercalate "/" ("" :: next :: others) = base
    intro based
    split
    · exact based.of_prefix (by simp)
    · rename_i bare
      refine rooted_of_shorter based ?_ fun empty => bare ⟨empty, by simp⟩
      rw [String.toList_ofList, ← List.reverse_suffix, List.reverse_reverse]
      exact List.dropWhile_suffix _

end Wildcard

namespace Surroundings

open Wildcard

theorem rooted_of_findParts {around : Surroundings} {directory found : String} {parts : List String}
    (rooted : Path.Rooted directory) (member : found ∈ around.findParts directory parts) :
    Path.Rooted found := by
  induction parts generalizing directory with
  | nil =>
    rw [findParts, List.mem_singleton] at member
    exact member ▸ rooted
  | cons part rest ih =>
    rw [findParts] at member
    obtain ⟨name, _, later⟩ := List.mem_flatMap.mp member
    exact ih (rooted_below rooted name) later

theorem rooted_of_expand {around : Surroundings} {pattern found : String}
    (rooted : Path.Rooted pattern) (member : found ∈ around.expand pattern) : Path.Rooted found := by
  simp only [expand, sortNames, List.mem_mergeSort] at member
  exact rooted_of_findParts (rooted_splitPattern rooted) member

/-! ### Keys -/

theorem isAbsolute_projectKey (around : Surroundings) (path : Path) :
    (around.projectKey path).isAbsolute = true := by
  unfold projectKey absolute Path.join
  split
  · rename_i absolute
    exact absolute
  · rfl

theorem origin_projectKey (around : Surroundings) (path : Path) :
    around.origin (around.projectKey path) = [] :=
  if_pos (around.isAbsolute_projectKey path)

theorem isKey_projectKey {around : Surroundings} (settled : around.Settled) {path : Path}
    (proper : path.Proper) : (around.projectKey path).IsKey where
  proper := by
    have directory : (Path.mk .root around.directory).Proper := fun name member =>
      ⟨(settled.legal name member).1, (settled.legal name member).2.1⟩
    exact (directory.join proper).normal
  absolute := around.isAbsolute_projectKey path
  normal := Path.normal_normal _

theorem projectKey_of_isAbsolute (around : Surroundings) {path : Path}
    (absolute : path.isAbsolute = true) : around.projectKey path = path.normal := by
  unfold projectKey Surroundings.absolute Path.join
  rw [if_pos absolute]

/-- The key of a relative path: its ways up lead out of the working directory. -/
theorem projectKey_of_relative {around : Surroundings} (settled : around.Settled) {path : Path}
    (relative : ¬ path.isAbsolute = true) {ups : Nat} {names : List String}
    (parts : path.parts = List.replicate ups ".." ++ names) (down : ".." ∉ names) :
    around.projectKey path =
      ⟨.root, around.directory.take (around.directory.length - ups) ++ names⟩ := by
  have anchored : around.absolute path = ⟨.root, around.directory ++ path.parts⟩ := by
    unfold Surroundings.absolute Path.join
    rw [if_neg relative]
  rw [← projectKey_parts settled down, ← parts, projectKey, anchored]
  rfl

theorem projectKey_of_isKey (around : Surroundings) {path : Path} (key : path.IsKey) :
    around.projectKey path = path := by
  rw [around.projectKey_of_isAbsolute key.absolute, key.normal.normal_eq key.absolute]

theorem projectKey_projectKey (around : Surroundings) (path : Path) :
    around.projectKey (around.projectKey path) = around.projectKey path := by
  have absolute := around.isAbsolute_projectKey path
  rw [around.projectKey_of_isAbsolute absolute]
  exact (Path.normal_normal _).normal_eq absolute

/-! ### What is referred to -/

theorem isAbsolute_locate {directory : Path} (absolute : directory.isAbsolute = true) (text : String) :
    (Path.locate directory text).isAbsolute = true := by
  change (directory.join (Path.ofString text)).isAbsolute = true
  unfold Path.join
  split
  · rename_i own
    exact own
  · exact absolute

theorem isKey_locate {directory : Path} (proper : directory.Proper)
    (absolute : directory.isAbsolute = true) (text : String) : (Path.locate directory text).IsKey :=
  ⟨(proper.join (Path.proper_ofString text)).normal, isAbsolute_locate absolute text, Path.normal_normal _⟩

theorem isAbsolute_of_mem_partPaths {around : Surroundings} {directory : Path}
    (absolute : directory.isAbsolute = true) {part : String} {found : Path}
    (member : found ∈ around.partPaths directory part) : found.isAbsolute = true := by
  unfold partPaths at member
  split at member
  · cases member
  · split at member
    · obtain ⟨text, sought, rfl⟩ := List.mem_map.mp member
      have expanded := (List.mem_filter.mp sought).1
      apply Path.isAbsolute_ofString
      split at expanded
      · rename_i starts
        exact rooted_of_expand (Path.rooted_of_startsIn starts) expanded
      · exact rooted_of_expand (rooted_below (Path.rooted_toString absolute) part) expanded
    · rw [List.mem_singleton.mp member]
      exact isAbsolute_locate absolute part

theorem isAbsolute_of_mem_itemPaths {around : Surroundings} {directory : Path}
    (absolute : directory.isAbsolute = true) {items : String} {found : Path}
    (member : found ∈ around.itemPaths directory items) : found.isAbsolute = true := by
  obtain ⟨part, _, member⟩ := List.mem_flatMap.mp member
  exact isAbsolute_of_mem_partPaths absolute member

theorem isKey_of_mem_partPaths {around : Surroundings} {directory : Path} (proper : directory.Proper)
    (absolute : directory.isAbsolute = true) {part : String} {found : Path}
    (member : found ∈ around.partPaths directory part) : found.IsKey := by
  have rooted := isAbsolute_of_mem_partPaths absolute member
  unfold partPaths at member
  split at member
  · cases member
  · split at member
    · obtain ⟨text, _, rfl⟩ := List.mem_map.mp member
      exact ⟨(Path.proper_ofString text).normal, rooted, Path.normal_normal _⟩
    · rw [List.mem_singleton.mp member]
      exact isKey_locate proper absolute part

theorem isKey_of_mem_itemPaths {around : Surroundings} {directory : Path} (proper : directory.Proper)
    (absolute : directory.isAbsolute = true) {items : String} {found : Path}
    (member : found ∈ around.itemPaths directory items) : found.IsKey := by
  obtain ⟨part, _, member⟩ := List.mem_flatMap.mp member
  exact isKey_of_mem_partPaths proper absolute member

theorem evaluate_projectKey (around : Surroundings) (path : Path) :
    around.evaluate (around.projectKey path) = around.evaluate path := by
  have same := around.projectKey_projectKey path
  unfold projectKey at same
  unfold evaluate
  simp only [projectKey, same]

private theorem find_of_read {around : Surroundings} {text : String} {bytes : List UInt8}
    (read : around.read text = .ok bytes) : around.find true text = .ok (.file bytes) := by
  unfold Surroundings.read at read
  split at read
  · rename_i found
    cases read
    exact found
  all_goals cases read

theorem evaluate_eq_ok {around : Surroundings} {path : Path} {project : Project} {reports : List String}
    (evaluates : around.evaluate path = .ok (project, reports)) :
    project.path = around.projectKey path ∧
      (∃ bytes, around.find true (around.projectKey path).toString = .ok (.file bytes)) ∧
      ((around.projectKey path).Proper → ∀ reference ∈ project.references, reference.IsKey) := by
  unfold evaluate at evaluates
  dsimp only at evaluates
  split at evaluates
  · cases evaluates
  rename_i language _
  split at evaluates
  · cases evaluates
  · cases evaluates
  rename_i bytes read
  split at evaluates
  · rename_i root _
    have described := Except.ok.inj evaluates
    have same : project = (around.describe (around.projectKey path) language root).1 :=
      (congrArg Prod.fst described).symm
    refine ⟨by rw [same]; rfl, ⟨bytes, find_of_read read⟩, ?_⟩
    intro proper reference member
    rw [same] at member
    obtain ⟨item, _, member⟩ := List.mem_flatMap.mp member
    exact isKey_of_mem_itemPaths proper.parent (around.isAbsolute_projectKey path) member
  all_goals cases evaluates

end Surroundings
end UsingCensus
