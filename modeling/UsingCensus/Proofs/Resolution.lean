import UsingCensus.FileTree.Canonical
import UsingCensus.Proofs.Following

/-!
Resolution of links. Main statement: a path that leads somewhere by following links one after the other has
that place for its canonical form, which is found by replacing each link with what it stands for.
-/
namespace UsingCensus

namespace FileTree

/-- A walk from one location to another, with the number of links on the way. What a link stands for is
walked before the rest. -/
inductive Walk (tree : FileTree) : Location → List String → Nat → Location → Prop where
  | done (here : Location) : tree.Walk here [] 0 here
  | stay (dot : name = ".") (rest : tree.Walk here more links there) : tree.Walk here (name :: more) links there
  | up (dots : name = "..") (rest : tree.Walk here.dropLast more links there) :
      tree.Walk here (name :: more) links there
  | enter (named : name ≠ "." ∧ name ≠ "..")
      (plain : ∀ target, tree.entry? (here ++ [name]) ≠ some (.link target))
      (rest : tree.Walk (here ++ [name]) more links there) : tree.Walk here (name :: more) links there
  | pass (named : name ≠ "." ∧ name ≠ "..") (found : tree.entry? (here ++ [name]) = some (.link target))
      (replaced : tree.Walk (startOf target here) (steps target) detour middle)
      (rest : tree.Walk middle more links there) :
      tree.Walk here (name :: more) (detour + links + 1) there

namespace Walk

variable {tree : FileTree} {here there : Location} {links : Nat}

theorem split {first second : List String} (walk : tree.Walk here (first ++ second) links there) :
    ∃ before after middle, tree.Walk here first before middle ∧ tree.Walk middle second after there ∧
      links = before + after := by
  induction first generalizing here links with
  | nil => exact ⟨0, links, here, .done here, walk, (Nat.zero_add links).symm⟩
  | cons name more ih =>
    cases walk with
    | stay dot rest =>
      obtain ⟨before, after, middle, one, two, sum⟩ := ih rest
      exact ⟨before, after, middle, .stay dot one, two, sum⟩
    | up dots rest =>
      obtain ⟨before, after, middle, one, two, sum⟩ := ih rest
      exact ⟨before, after, middle, .up dots one, two, sum⟩
    | enter named plain rest =>
      obtain ⟨before, after, middle, one, two, sum⟩ := ih rest
      exact ⟨before, after, middle, .enter named plain one, two, sum⟩
    | pass named found replaced rest =>
      obtain ⟨before, after, middle, one, two, sum⟩ := ih rest
      exact ⟨_, after, middle, .pass named found replaced one, two, by omega⟩

theorem unique {rest : List String} {others : Nat} {elsewhere : Location}
    (walk : tree.Walk here rest links there) (other : tree.Walk here rest others elsewhere) :
    links = others ∧ there = elsewhere := by
  induction walk generalizing others elsewhere with
  | done here =>
    cases other
    exact ⟨rfl, rfl⟩
  | stay dot _ ih =>
    subst dot
    cases other with
    | stay _ rest => exact ih rest
    | up dots _ => exact absurd dots (by decide)
    | enter named _ _ => exact absurd rfl named.1
    | pass named _ _ _ => exact absurd rfl named.1
  | up dots _ ih =>
    subst dots
    cases other with
    | stay dot _ => exact absurd dot (by decide)
    | up _ rest => exact ih rest
    | enter named _ _ => exact absurd rfl named.2
    | pass named _ _ _ => exact absurd rfl named.2
  | enter named plain _ ih =>
    cases other with
    | stay dot _ => exact absurd dot named.1
    | up dots _ => exact absurd dots named.2
    | enter _ _ rest => exact ih rest
    | pass _ found _ _ => exact absurd found (plain _)
  | pass named found _ _ first second =>
    cases other with
    | stay dot _ => exact absurd dot named.1
    | up dots _ => exact absurd dots named.2
    | enter _ plain _ => exact absurd found (plain _)
    | pass _ also replaced rest =>
      rw [found] at also
      cases also
      obtain ⟨rfl, rfl⟩ := first replaced
      obtain ⟨rfl, rfl⟩ := second rest
      exact ⟨rfl, rfl⟩

theorem plain {rest : List String} (walk : tree.Walk here rest links there)
    (named : ∀ name ∈ rest, name ≠ "." ∧ name ≠ "..")
    (linkless : ∀ place, place <+: rest → ∀ target, tree.entry? (here ++ place) ≠ some (.link target)) :
    there = here ++ rest := by
  induction walk with
  | done here => simp
  | stay dot _ _ => exact absurd dot (named _ List.mem_cons_self).1
  | up dots _ _ => exact absurd dots (named _ List.mem_cons_self).2
  | enter _ _ _ ih =>
    have later := ih (fun name member => named name (List.mem_cons_of_mem _ member)) (by
      intro place prefixed
      have further := linkless (_ :: place) (List.cons_prefix_cons.mpr ⟨rfl, prefixed⟩)
      simpa using further)
    simpa using later
  | pass _ found _ _ => exact absurd found (linkless [_] (by simp) _)

end Walk

theorem walk_of_follow {tree : FileTree} {links : Nat} {here there : Location} {rest : List String}
    (leads : tree.follow true links here rest = .ok there) : ∃ passed, tree.Walk here rest passed there := by
  fun_induction follow tree true links here rest with
  | case1 =>
    cases leads
    exact ⟨0, .done _⟩
  | case2 | case3 | case4 | case5 | case9 => cases leads
  | case6 links here more _ _ ih =>
    obtain ⟨passed, walk⟩ := ih leads
    exact ⟨passed, .stay rfl walk⟩
  | case7 links here more _ _ _ ih =>
    obtain ⟨passed, walk⟩ := ih leads
    exact ⟨passed, .up rfl walk⟩
  | case8 links here name more _ _ _ _ next target _ last => cases last.2
  | case10 here first more _ _ dot dots next target found _ fewer ih =>
    obtain ⟨passed, walk⟩ := ih leads
    obtain ⟨before, after, middle, replaced, rest, _⟩ := walk.split
    exact ⟨_, .pass ⟨dot, dots⟩ found replaced rest⟩
  | case11 links here first more _ _ dot dots next plain ih =>
    obtain ⟨passed, walk⟩ := ih leads
    exact ⟨passed, .enter ⟨dot, dots⟩ plain walk⟩

/-- The links that are being replaced, each of which takes more than what is left of the walk. -/
structure Entered (tree : FileTree) (links : Nat) (entered : List Location) : Prop where
  distinct : entered.Nodup
  longer : ∀ place ∈ entered, ∃ target detour middle, tree.entry? place = some (.link target) ∧
    tree.Walk (startOf target place.dropLast) (steps target) detour middle ∧ links ≤ detour

namespace Entered

variable {tree : FileTree} {links fewer : Nat} {entered : List Location}

theorem mono (known : tree.Entered links entered) (less : fewer ≤ links) : tree.Entered fewer entered where
  distinct := known.distinct
  longer := by
    intro place member
    obtain ⟨target, detour, middle, found, walk, bound⟩ := known.longer place member
    exact ⟨target, detour, middle, found, walk, Nat.le_trans less bound⟩

theorem not_mem (known : tree.Entered links entered) {here middle : Location} {name target : String}
    {detour : Nat} (found : tree.entry? (here ++ [name]) = some (.link target))
    (replaced : tree.Walk (startOf target here) (steps target) detour middle) (less : detour < links) :
    here ++ [name] ∉ entered := by
  intro member
  obtain ⟨other, longer, elsewhere, same, walk, bound⟩ := known.longer _ member
  rw [found] at same
  cases same
  rw [List.dropLast_concat] at walk
  obtain ⟨rfl, _⟩ := replaced.unique walk
  omega

theorem cons (known : tree.Entered links entered) {here middle : Location} {name target : String}
    {detour : Nat} (found : tree.entry? (here ++ [name]) = some (.link target))
    (replaced : tree.Walk (startOf target here) (steps target) detour middle) (less : detour < links) :
    tree.Entered detour ((here ++ [name]) :: entered) where
  distinct := List.nodup_cons.mpr ⟨known.not_mem found replaced less, known.distinct⟩
  longer := by
    intro place member
    rcases List.mem_cons.mp member with rfl | old
    · exact ⟨target, detour, middle, found, by rwa [List.dropLast_concat], Nat.le_refl _⟩
    · exact (known.mono (Nat.le_of_lt less)).longer place old

theorem length_le (known : tree.Entered links entered) : entered.length ≤ tree.entries.length := by
  have listed : entered ⊆ tree.entries.map Prod.fst := by
    intro place member
    obtain ⟨target, _, _, found, _⟩ := known.longer place member
    unfold entry? at found
    split at found
    · cases found
    · obtain ⟨entry, standing, _⟩ := Option.map_eq_some_iff.mp found
      have same : entry.1 = place := by simpa using List.find?_some standing
      exact List.mem_map.mpr ⟨entry, List.mem_of_find?_eq_some standing, same⟩
  simpa using known.distinct.length_le_of_subset listed

end Entered

/-- Whatever can be walked is found by replacing links: no link turns up within what it stands for. -/
theorem Walk.unlink {tree : FileTree} {here there : Location} {rest : List String} {links : Nat}
    (walk : tree.Walk here rest links there) {budget : Nat} {entered : List Location}
    (known : tree.Entered links entered) (room : tree.entries.length ≤ entered.length + budget) :
    tree.unlink budget entered here rest = .ok there := by
  induction walk generalizing budget entered with
  | done here => rw [FileTree.unlink]
  | stay dot _ ih =>
    subst dot
    rw [FileTree.unlink, if_pos rfl]
    exact ih known room
  | up dots _ ih =>
    subst dots
    rw [FileTree.unlink, if_neg (by decide), if_pos rfl]
    exact ih known room
  | enter named plain _ ih =>
    rw [FileTree.unlink, if_neg named.1, if_neg named.2]
    dsimp only
    split
    · rename_i target found
      exact absurd found (plain target)
    · exact ih known room
  | pass named found replaced _ first second =>
    have within := known.cons found replaced (by omega)
    have few := within.length_le
    rw [List.length_cons] at few
    rw [FileTree.unlink, if_neg named.1, if_neg named.2]
    dsimp only
    split
    · rename_i target also
      rw [found] at also
      cases also
      rw [if_neg (List.nodup_cons.mp within.distinct).1]
      cases budget with
      | zero => omega
      | succ fewer =>
        have replaces := @first fewer _ within (by rw [List.length_cons]; omega)
        simp only [replaces]
        exact second (known.mono (by omega)) room
    · rename_i plain
      exact absurd found (plain _)

end FileTree

namespace Surroundings

open FileTree

/-- A key that leads to a file is walked to where the file stands, and that is its canonical form. -/
theorem walk_of_find {around : Surroundings} {path : Path} (key : path.IsKey) {bytes : List UInt8}
    (found : around.find true path.toString = .ok (.file bytes)) :
    ∃ location links, around.seek true path.toString = .ok location ∧
      around.tree.Walk [] path.parts links location ∧ around.canonical path = .ok ⟨.root, location⟩ := by
  obtain ⟨null, short, named, location, leads, _⟩ := (find_eq_file_iff around key.proper).mp found
  have sought : around.seek true path.toString = .ok location :=
    (seek_toString_eq_ok_iff key.proper).mpr ⟨short, by rw [key.proper.steps named, leads]⟩
  have origin : around.origin path = [] := if_pos key.absolute
  rw [origin] at leads
  obtain ⟨links, walk⟩ := walk_of_follow leads
  refine ⟨location, links, sought, walk, ?_⟩
  have nothing : around.tree.Entered links [] := ⟨List.nodup_nil, by simp⟩
  have replaced : around.tree.unlink around.tree.entries.length [] [] path.parts = .ok location :=
    walk.unlink nothing (Nat.le_add_left _ _)
  have absolute : around.absolute path = path := if_pos key.absolute
  unfold canonical
  rw [if_neg (by simpa using null)]
  simp only [absolute, replaced]

end Surroundings
end UsingCensus
