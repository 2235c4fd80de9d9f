import UsingCensus.Proofs.Mirrors
import UsingCensus.Proofs.Walks

namespace UsingCensus

open FileTree

namespace Surroundings

variable {around other : Surroundings} {folder : Path} {text : String}

/-- Behind the text of a folder only what follows it decides, if the path of what stands there is not too
long. -/
theorem Holds.locate?_append (holds : around.Holds folder) (readable : '\x00' ∉ folder.toString.toList)
    (continues : Path.Continues text) (through : Bool)
    (fits : ∀ location, around.tree.follow through linkLimit folder.parts (steps text) = .ok location →
      around.tree.entry? location ≠ none → (Text.Utf8.ofString (folder.toString ++ text)).length ≤ pathLimit) :
    around.locate? through (folder.toString ++ text) =
      if '\x00' ∈ text.toList then none
      else (around.tree.follow through linkLimit folder.parts (steps text)).toOption.filter fun location =>
        (around.tree.entry? location).isSome := by
  have same : '\x00' ∈ (folder.toString ++ text).toList ↔ '\x00' ∈ text.toList := by
    rw [String.toList_append, List.mem_append, or_iff_right readable]
  unfold locate?
  rw [holds.seek_eq continues]
  by_cases null : '\x00' ∈ text.toList
  · rw [if_pos (same.mpr null), if_pos null]
  rw [if_neg (mt same.mp null), if_neg null]
  split
  · rename_i long
    cases followed : around.tree.follow through linkLimit folder.parts (steps text) with
    | error cause => rfl
    | ok location =>
      have missing : around.tree.entry? location = none := by
        by_contra stands
        exact absurd (fits location followed stands) (Nat.not_le.mpr long)
      simp [Except.toOption, Option.filter_some, missing]
  · rfl

/-! ### The same content elsewhere -/

/-- What stands below one folder stands below another folder elsewhere. -/
structure Moves (around other : Surroundings) (here there : Path) : Prop where
  source : around.Holds here
  goal : other.Holds there
  content : ∀ rest, other.tree.entry? (there.parts ++ rest) = around.tree.entry? (here.parts ++ rest)
  readable : '\x00' ∉ here.toString.toList
  alsoReadable : '\x00' ∉ there.toString.toList

/-- A text behind the path of a folder that does not lead out of it, neither through links nor by its letters,
and makes no path too long under either name of the folder. -/
structure Inside (around : Surroundings) (here there : Path) (text : String) : Prop where
  continues : Path.Continues text
  stays : around.tree.Stays (here.parts <+: ·) linkLimit here.parts (steps text)
  below : Path.StaysBelow (Path.ofString text).parts
  fits : ∀ through location, around.tree.follow through linkLimit here.parts (steps text) = .ok location →
    around.tree.entry? location ≠ none → ∀ folder ∈ [here, there],
      (Text.Utf8.ofString (folder.toString ++ text)).length ≤ pathLimit

def moveLocation (here there : Path) (location : Location) : Location :=
  there.parts ++ location.drop here.parts.length

theorem moveLocation_append (here there : Path) (rest : List String) :
    moveLocation here there (here.parts ++ rest) = there.parts ++ rest := by
  rw [moveLocation, List.drop_left]

def moveText (here there : Path) (text : String) : String :=
  there.toString ++ String.ofList (text.toList.drop here.toString.toList.length)

theorem moveText_append (here there : Path) (text : String) :
    moveText here there (here.toString ++ text) = there.toString ++ text := by
  rw [moveText, String.toList_append, List.drop_left, String.ofList_toList]

namespace Moves

variable {here there : Path}

theorem carries (moves : Moves around other here there) :
    Carries (moveLocation here there) (here.parts <+: ·) around.tree other.tree where
  kind := by
    rintro location ⟨rest, rfl⟩
    rw [moveLocation_append, moves.content]
  link := by
    rintro location ⟨rest, rfl⟩ target stands
    rw [moveLocation_append, moves.content, stands]
  child := by
    rintro location name ⟨rest, rfl⟩
    refine ⟨⟨rest ++ [name], (List.append_assoc _ _ _).symm⟩, ?_⟩
    rw [List.append_assoc, moveLocation_append, moveLocation_append, List.append_assoc]
  parent := by
    rintro location ⟨rest, rfl⟩ within
    have some : rest ≠ [] := by
      rintro rfl
      have shorter := within.length_le
      have filled := List.length_pos_iff.mpr moves.source.filled
      rw [List.append_nil, List.length_dropLast] at shorter
      omega
    rw [List.dropLast_append_of_ne_nil some, moveLocation_append, moveLocation_append,
      List.dropLast_append_of_ne_nil some]
  start := by
    intro location target within started
    unfold startOf at started ⊢
    split at started
    · exact absurd (List.prefix_nil.mp started) moves.source.filled
    · rename_i relative
      rw [if_neg relative, if_neg relative]

theorem locate?_eq (moves : Moves around other here there) (inside : around.Inside here there text)
    (through : Bool) :
    other.locate? through (there.toString ++ text) =
        (around.locate? through (here.toString ++ text)).map (moveLocation here there) ∧
      ∀ location, around.locate? through (here.toString ++ text) = some location →
        here.parts <+: location := by
  obtain ⟨carried, within⟩ := moves.carries.leads inside.stays through
  have start : moveLocation here there here.parts = there.parts := by
    simpa using moveLocation_append here there []
  rw [start] at carried
  have kept (location : Location) (inner : here.parts <+: location) :
      other.tree.entry? (moveLocation here there location) = around.tree.entry? location := by
    obtain ⟨rest, rfl⟩ := inner
    rw [moveLocation_append, moves.content]
  have short := moves.source.locate?_append moves.readable inside.continues through fun location followed stands =>
    inside.fits through location followed stands here (by simp)
  have also := moves.goal.locate?_append moves.alsoReadable inside.continues through <| by
    intro elsewhere followed stands
    rw [carried] at followed
    cases before : around.tree.follow through linkLimit here.parts (steps text) with
    | error cause =>
      rw [before] at followed
      cases followed
    | ok location =>
      rw [before] at followed
      cases followed
      rw [kept location (within location before)] at stands
      exact inside.fits through location before stands there (by simp)
  rw [short, also, carried]
  by_cases null : '\x00' ∈ text.toList
  · rw [if_pos null, if_pos null]
    exact ⟨rfl, fun location found => nomatch found⟩
  rw [if_neg null, if_neg null]
  cases followed : around.tree.follow through linkLimit here.parts (steps text) with
  | error cause => exact ⟨rfl, fun location found => nomatch found⟩
  | ok location =>
    have inner := within location followed
    have moved : (Except.map (moveLocation here there) (.ok location : Except PathCause Location)).toOption =
      some (moveLocation here there location) := rfl
    have stays : (Except.ok location : Except PathCause Location).toOption = some location := rfl
    rw [moved, stays, Option.filter_some, Option.filter_some, kept location inner]
    constructor
    · split <;> rfl
    · intro found same
      split at same
      · cases same
        exact inner
      · cases same

theorem toOption_find_eq (moves : Moves around other here there) (inside : around.Inside here there text)
    (through : Bool) : (other.find through (there.toString ++ text)).toOption =
      (around.find through (here.toString ++ text)).toOption := by
  obtain ⟨carried, within⟩ := moves.locate?_eq inside through
  rw [toOption_find, toOption_find, carried]
  cases found : around.locate? through (here.toString ++ text) with
  | none => rfl
  | some location =>
    obtain ⟨rest, rfl⟩ := within location found
    change other.tree.entry? (moveLocation here there _) = around.tree.entry? _
    rw [moveLocation_append, moves.content]

theorem holdsDirectory_eq (moves : Moves around other here there) (inside : around.Inside here there text)
    (name : String) :
    other.holdsDirectory (there.toString ++ text) name = around.holdsDirectory (here.toString ++ text) name := by
  obtain ⟨carried, within⟩ := moves.locate?_eq inside true
  rw [Surroundings.holdsDirectory_eq, Surroundings.holdsDirectory_eq, carried]
  cases found : around.locate? true (here.toString ++ text) with
  | none => rfl
  | some location =>
    obtain ⟨rest, rfl⟩ := within location found
    rw [Option.map_some, Option.any_some, Option.any_some, moveLocation_append, moves.content, List.append_assoc,
      List.append_assoc, moves.content]

theorem namesOf_perm (moves : Moves around other here there) (inside : around.Inside here there text) :
    (other.namesOf (there.toString ++ text)).Perm (around.namesOf (here.toString ++ text)) := by
  obtain ⟨carried, within⟩ := moves.locate?_eq inside true
  rw [namesOf_eq, namesOf_eq, carried]
  cases found : around.locate? true (here.toString ++ text) with
  | none => exact List.Perm.refl _
  | some location =>
    obtain ⟨rest, rfl⟩ := within location found
    rw [Option.map_some, Option.elim_some, Option.elim_some, moveLocation_append, moves.content]
    split
    · refine children_perm fun name => ?_
      rw [List.append_assoc, List.append_assoc, moves.content]
    · exact List.Perm.refl _

theorem legal_of_mem_namesOf (moves : Moves around other here there) (inside : around.Inside here there text)
    {name : String} (listed : name ∈ around.namesOf (here.toString ++ text)) : Legal name := by
  obtain ⟨location, leads, _, stands⟩ := exists_of_mem_namesOf listed
  have followed := moves.source.follow_of_seek inside.continues leads
  obtain ⟨rest, rfl⟩ := (moves.carries.leads inside.stays true).2 location followed
  exact moves.source.named rest name stands

/-! ### What patterns and walks find -/

/-- A text that is known to lead nowhere else: the path of the folder and what can follow it. -/
def Known (around : Surroundings) (here there : Path) (text : String) : Prop :=
  ∃ behind, text = here.toString ++ behind ∧ around.Inside here there behind

theorem mirrors (moves : Moves around other here there) :
    Mirrors around other (moveText here there) (Known around here there) Legal where
  kind := by
    rintro text ⟨behind, rfl, inside⟩ through
    rw [kind?_eq, kind?_eq, ← toOption_find, ← toOption_find, moveText_append, moves.toOption_find_eq inside]
  stands := by
    rintro text ⟨behind, rfl, inside⟩ name
    rw [moveText_append]
    exact moves.holdsDirectory_eq inside name
  names := by
    rintro text ⟨behind, rfl, inside⟩
    rw [moveText_append]
    exact moves.namesOf_perm inside
  listed := by
    rintro text ⟨behind, rfl, inside⟩ name listed
    exact moves.legal_of_mem_namesOf inside listed
  below := by
    rintro text ⟨behind, rfl, inside⟩ name
    rw [moveText_append, Wildcard.below_append moves.source.toIsFolder inside.continues,
      Wildcard.below_append moves.goal.toIsFolder inside.continues, moveText_append]
  place := by
    rintro text ⟨behind, rfl, inside⟩
    rw [Wildcard.place, if_neg (moves.source.append_ne_empty behind), moveText_append, Wildcard.place,
      if_neg (moves.goal.append_ne_empty behind)]
    exact ⟨⟨behind, rfl, inside⟩, rfl⟩
  order := by
    rintro first second ⟨behind, rfl, _⟩ ⟨other, rfl, _⟩
    rw [moveText_append, moveText_append, Path.append_lt_append_iff, Path.append_lt_append_iff]

end Moves
end Surroundings
end UsingCensus
