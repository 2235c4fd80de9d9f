import Mathlib.Data.List.Nodup
import UsingCensus.Proofs.Carrying
import UsingCensus.Proofs.FolderTexts
import UsingCensus.Proofs.References

namespace UsingCensus.Surroundings

open FileTree

/-- Places below each other are no more than there are entries, if something is at each. -/
theorem length_le_of_entries {tree : FileTree} {base : Location} {names : List String}
    (standing : ∀ place, place <+: names → place ≠ [] → tree.entry? (base ++ place) ≠ none) :
    names.length ≤ tree.entries.length := by
  have distinct : ((List.range names.length).map fun size => base ++ names.take (size + 1)).Nodup := by
    refine List.Nodup.map_on ?_ List.nodup_range
    intro first here second there same
    have sizes := congrArg List.length (List.append_cancel_left same)
    rw [List.length_take, List.length_take] at sizes
    have here := List.mem_range.mp here
    have there := List.mem_range.mp there
    omega
  have listed : ((List.range names.length).map fun size => base ++ names.take (size + 1)) ⊆
      tree.entries.map Prod.fst := by
    intro place member
    obtain ⟨size, within, rfl⟩ := List.mem_map.mp member
    have some : 0 < names.length := Nat.zero_lt_of_lt (List.mem_range.mp within)
    have down : names.take (size + 1) ≠ [] := by
      simp [List.length_pos_iff.mp some]
    have below : base ++ names.take (size + 1) ≠ [] := fun none => down (List.append_eq_nil_iff.mp none).2
    exact (entry?_ne_none_iff below).mp (standing _ (List.take_prefix _ _) down)
  simpa using distinct.length_le_of_subset listed

theorem length_le_of_standing {tree : FileTree} {base : Location} {names : List String}
    (standing : ∀ place, place <+: names → tree.entry? (base ++ place) = some .directory) :
    names.length ≤ tree.entries.length :=
  length_le_of_entries fun place prefixed _ => by
    rw [standing place prefixed]
    exact Option.some_ne_none _

/-- Directories only stand above a folder, and below it names only. -/
structure Holds (around : Surroundings) (folder : Path) : Prop extends folder.IsFolder where
  standing : ∀ above, above <+: folder.parts → around.tree.entry? above = some .directory
  named : ∀ rest name, around.tree.entry? (folder.parts ++ rest ++ [name]) ≠ none → Legal name

namespace Holds

variable {around : Surroundings} {folder : Path} {name : String}

/-- A folder has no more names than there are entries. -/
theorem length_parts_le (holds : around.Holds folder) :
    folder.parts.length ≤ around.tree.entries.length := by
  have standing : ∀ above, above <+: folder.parts → around.tree.entry? ([] ++ above) = some .directory :=
    holds.standing
  exact length_le_of_standing standing

theorem seek_eq (holds : around.Holds folder) {text : String} (continues : Path.Continues text)
    (through : Bool) : around.seek through (folder.toString ++ text) =
      if (Text.Utf8.ofString (folder.toString ++ text)).length > pathLimit then .error .nameTooLong
      else around.tree.follow through linkLimit folder.parts (steps text) := by
  have start : startOf (folder.toString ++ text) around.directory = [] := by
    obtain ⟨rest, rooted⟩ := Path.rooted_toString holds.absolute
    unfold startOf Text.startsIn
    rw [String.toList_append, rooted]
    rfl
  have down : around.tree.follow through linkLimit [] (folder.parts ++ steps text) =
      around.tree.follow through linkLimit ([] ++ folder.parts) (steps text) :=
    follow_down holds.legal holds.standing
  unfold seek
  rw [if_neg (holds.append_ne_empty text), start, holds.steps_append continues, down, List.nil_append]

theorem follow_of_seek (holds : around.Holds folder) {text : String} (continues : Path.Continues text)
    {through : Bool} {location : Location}
    (leads : around.seek through (folder.toString ++ text) = .ok location) :
    around.tree.follow through linkLimit folder.parts (steps text) = .ok location := by
  rw [holds.seek_eq continues] at leads
  split at leads
  · cases leads
  · exact leads

theorem eq_of_seek (holds : around.Holds folder) {location : Location}
    (leads : around.seek true folder.toString = .ok location) : location = folder.parts := by
  have followed := holds.follow_of_seek (.inl rfl) ((String.append_empty ▸ leads :
    around.seek true (folder.toString ++ "") = .ok location))
  have none : steps "" = [] := rfl
  rw [none, follow] at followed
  exact (Except.ok.inj followed).symm

theorem stands_of_listed (holds : around.Holds folder) (listed : name ∈ around.namesOf folder.toString) :
    around.tree.entry? (folder.parts ++ [name]) ≠ none := by
  obtain ⟨location, leads, _, stands⟩ := exists_of_mem_namesOf listed
  rwa [holds.eq_of_seek leads] at stands

theorem child (holds : around.Holds folder)
    (stands : around.tree.entry? (folder.parts ++ [name]) = some .directory) :
    around.Holds (folder.child name) where
  absolute := holds.absolute
  filled := by simp [Path.child]
  legal := by
    have legal := holds.named [] name (by rw [List.append_nil, stands]; exact Option.some_ne_none _)
    exact List.forall_mem_append.mpr ⟨holds.legal, List.forall_mem_singleton.mpr legal⟩
  standing := by
    intro above prefixed
    rcases List.prefix_concat_iff.mp prefixed with rfl | shorter
    · exact stands
    · exact holds.standing above shorter
  named := by
    intro rest other found
    refine holds.named (name :: rest) other ?_
    simpa [Path.child] using found

theorem directory_of_entered (holds : around.Holds folder) (listed : name ∈ around.namesOf folder.toString)
    {depth : Nat} (leads : around.leadsToDirectory depth folder name = true)
    (noLink : around.isLink (folder.child name).toString = false) :
    around.tree.entry? (folder.parts ++ [name]) = some .directory := by
  have stands := holds.stands_of_listed listed
  have legal := holds.named [] name (by rwa [List.append_nil])
  have here : around.tree.entry? folder.parts = some .directory := holds.standing _ List.prefix_rfl
  have text : (folder.child name).toString = folder.toString ++ Path.trail [name] :=
    holds.toString_append [name]
  have step : steps (Path.trail [name]) = [name] :=
    Path.steps_trail (List.forall_mem_singleton.mpr ⟨legal.1, legal.2.1⟩)
  have followed (through : Bool) (passes : ∀ target,
      around.tree.entry? (folder.parts ++ [name]) = some (.link target) → through = false) :
      around.tree.follow through linkLimit folder.parts [name] = .ok (folder.parts ++ [name]) := by
    rw [follow_name here (Nat.not_lt.mpr legal.2.2.2) ⟨(Path.isPart_iff.mp legal.1).2, legal.2.2.1⟩]
    split
    · rename_i target found
      rw [if_pos ⟨rfl, passes target found⟩]
    · rw [follow]
  have absolute : (folder.child name).isAbsolute = true := holds.absolute
  unfold leadsToDirectory at leads
  rw [Path.spelled_eq absolute, Path.spelled_eq holds.absolute, Bool.or_eq_true] at leads
  rcases leads with leads | standing
  · rw [isDirectory_eq, decide_eq_true_iff, kind?_eq_some_iff, text] at leads
    rw [isLink_eq, decide_eq_false_iff_not, kind?_eq_some_iff, text] at noLink
    obtain ⟨plain, location, entry, sought, found, directory⟩ := leads
    by_cases link : ∃ target, around.tree.entry? (folder.parts ++ [name]) = some (.link target)
    · obtain ⟨target, linked⟩ := link
      refine absurd ⟨plain, folder.parts ++ [name], .link target, ?_, linked, rfl⟩ noLink
      rw [holds.seek_eq (Path.continues_trail _), step] at sought ⊢
      split at sought
      · cases sought
      · rename_i short
        rw [if_neg short, followed false fun _ _ => rfl]
    · have at_ := holds.follow_of_seek (Path.continues_trail _) sought
      rw [step, followed true fun target linked => absurd ⟨target, linked⟩ link] at at_
      rw [Except.ok.inj at_, found]
      cases entry with
      | directory => rfl
      | file bytes => cases directory
      | link target => cases directory
  · rw [holdsDirectory_eq, Option.any_eq_true] at standing
    obtain ⟨location, found, both⟩ := standing
    rw [Bool.and_eq_true, decide_eq_true_iff, decide_eq_true_iff] at both
    rw [← holds.eq_of_seek (seek_of_locate? found)]
    exact both.2

/-- A walk comes to its end before its bound. -/
theorem filesBelow_eq (holds : around.Holds folder) (enter : Nat → String → Bool) {fuel more : Nat}
    (depth : Nat) (enough : around.tree.entries.length < fuel + folder.parts.length)
    (also : around.tree.entries.length < more + folder.parts.length) :
    around.filesBelow enter fuel depth folder = around.filesBelow enter more depth folder := by
  induction fuel generalizing more depth folder with
  | zero =>
    have bound := holds.length_parts_le
    omega
  | succ fewer ih =>
    cases more with
    | zero =>
      have bound := holds.length_parts_le
      omega
    | succ others =>
      rw [filesBelow, filesBelow]
      congr 1
      refine List.flatMap_congr fun name member => ?_
      obtain ⟨listed, entered⟩ := List.mem_filter.mp member
      have absolute : (folder.child name).isAbsolute = true := holds.absolute
      rw [Path.spelled_eq holds.absolute, mem_sortNames] at listed
      rw [Path.spelled_eq absolute, Bool.and_eq_true, Bool.and_eq_true, Bool.not_eq_true'] at entered
      have stands := holds.directory_of_entered listed entered.1.1 entered.2
      have deeper : (folder.child name).parts.length = folder.parts.length + 1 := by simp [Path.child]
      exact ih (holds.child stands) (depth + 1) (by omega) (by omega)

end Holds
end UsingCensus.Surroundings
