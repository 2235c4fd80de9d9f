import UsingCensus.Proofs.PlainFolders
import UsingCensus.Proofs.Resolution

/-!
What paths resolve to. Main statement: a path that resolves has the place of the very file that was located for
a target, as long as that file is not spelled from a home directory; that place is free of links and opened as
what the file was taken for, as long as no link stands at its end and its name is not all ending. A path that
does not resolve is refused for one of three reasons, unless it is spelled from a home directory or runs in a
circle.
-/
namespace UsingCensus

open FileTree

namespace Text

theorem eq_of_lower_eq {c d : Char} (before : d.toNat < 97) (same : lower c = d) : c = d := by
  unfold lower at same
  split at same
  · rename_i capital
    obtain ⟨low, high⟩ := capital
    have bounds : 65 ≤ c.toNat ∧ c.toNat ≤ 90 := ⟨low, high⟩
    have valid : (c.toNat + 32).isValidChar := .inl (by omega)
    have lowered : d.toNat = c.toNat + 32 := by
      rw [← same]
      unfold Char.ofNat
      rw [dif_pos valid]
      rfl
    omega
  · exact same

theorem not_mem_of_not_mem_lower {cs : List Char} {d : Char} (fixed : lower d = d) (absent : d ∉ cs.map lower) :
    d ∉ cs :=
  fun member => absent (fixed ▸ List.mem_map_of_mem member)

theorem getLast?_splitAt_append {separator : Char} (front : List Char) {back : List Char}
    (absent : separator ∉ back) :
    ∃ part, (splitAt separator (front ++ back)).getLast? = some (part ++ back) := by
  induction front with
  | nil => exact ⟨[], by rw [List.nil_append, splitAt_of_not_mem absent]; rfl⟩
  | cons c rest ih =>
    obtain ⟨part, last⟩ := ih
    rw [List.cons_append, splitAt]
    split
    · exact ⟨part, by rw [List.getLast?_cons, last]; rfl⟩
    · split
      · rename_i none
        exact absurd none (splitAt_ne_nil _ _)
      · rename_i first parts cut
        rw [cut, List.getLast?_cons] at last
        cases parts with
        | nil =>
          have whole : first = part ++ back := Option.some.inj last
          exact ⟨c :: part, by rw [whole]; rfl⟩
        | cons second more => exact ⟨part, by rw [List.getLast?_cons, List.getLast?_cons] at *; exact last⟩

end Text

namespace Target

variable {ending text : String}

theorem toList_of_mem_endings (member : ending ∈ endings) :
    ∃ rest, ending.toList = '.' :: rest ∧ rest ≠ [] ∧ '.' ∉ rest ∧ '/' ∉ rest := by
  have either : ending = ".sln" ∨ ending = ".csproj" := by simpa [endings] using member
  rcases either with rfl | rfl
  · exact ⟨['s', 'l', 'n'], by decide, by decide, by decide, by decide⟩
  · exact ⟨['c', 's', 'p', 'r', 'o', 'j'], by decide, by decide, by decide, by decide⟩

theorem exists_of_hasEnding (member : ending ∈ endings) (has : hasEnding ending text = true) :
    ∃ front rest, text.toList = front ++ '.' :: rest ∧ '.' :: rest.map Text.lower = ending.toList ∧
      rest ≠ [] ∧ '.' ∉ rest ∧ '/' ∉ rest := by
  obtain ⟨tail, spelled, some, dot, slash⟩ := toList_of_mem_endings member
  obtain ⟨front, ends⟩ := List.isSuffixOf_iff_suffix.mp has
  rw [Text.lowerText, String.toList_ofList, spelled] at ends
  obtain ⟨first, back, whole, _, lowered⟩ := List.map_eq_append_iff.mp ends.symm
  obtain ⟨c, rest, rfl, point, others⟩ := List.map_eq_cons_iff.mp lowered
  have period : c = '.' := Text.eq_of_lower_eq (by decide) point
  subst period others
  exact ⟨first, rest, whole, spelled.symm, by simpa using some,
    Text.not_mem_of_not_mem_lower (by decide) dot, Text.not_mem_of_not_mem_lower (by decide) slash⟩

theorem hasEnding_of_append {front rest : List Char} (lowered : '.' :: rest.map Text.lower = ending.toList) :
    hasEnding ending (String.ofList (front ++ '.' :: rest)) = true := by
  refine List.isSuffixOf_iff_suffix.mpr ?_
  rw [Text.lowerText, String.toList_ofList, String.toList_ofList, List.map_append, ← lowered]
  exact List.suffix_append _ _

/-- A path that is spelled with an ending has it in its name. -/
theorem hasEnding_name_ofString (member : ending ∈ endings) (has : hasEnding ending text = true) :
    hasEnding ending (Path.ofString text).name = true := by
  obtain ⟨front, rest, whole, lowered, some, _, slash⟩ := exists_of_hasEnding member has
  have absent : '/' ∉ '.' :: rest := List.not_mem_cons_of_ne_of_not_mem (by decide) slash
  obtain ⟨part, last⟩ := Text.getLast?_splitAt_append front absent
  obtain ⟨before, cut⟩ := List.getLast?_eq_some_iff.mp last
  have isPart : Path.isPart (String.ofList (part ++ '.' :: rest)) = true := by
    refine Path.isPart_iff.mpr ⟨fun empty => ?_, fun dot => ?_⟩
    · simpa using congrArg String.toList empty
    · have alone := congrArg (List.length ∘ String.toList) dot
      have long := List.length_pos_iff.mpr some
      simp at alone
      omega
  have name : (Path.ofString text).name = String.ofList (part ++ '.' :: rest) := by
    unfold Path.ofString Path.name Path.pieces
    rw [whole, cut, List.map_append, List.filter_append, List.map_singleton, List.filter_cons_of_pos isPart,
      List.filter_nil, List.getLast?_concat]
    rfl
  rw [name]
  exact hasEnding_of_append lowered

/-- A name that has an ending after its stem has it for its suffix. -/
theorem lowerText_suffix_of_hasEnding {path : Path} (member : ending ∈ endings)
    (has : hasEnding ending path.name = true) (stem : Text.lowerText path.name ≠ ending) :
    Text.lowerText path.suffix = ending := by
  obtain ⟨front, rest, whole, lowered, some, dot, _⟩ := exists_of_hasEnding member has
  have named : front ≠ [] := by
    rintro rfl
    apply stem
    rw [Text.lowerText, whole, List.nil_append, List.map_cons]
    rw [show Text.lower '.' = '.' by decide, lowered, String.ofList_toList]
  have plain : ∀ c ∈ rest.reverse, decide (c ≠ '.') = true := by
    intro c listed
    have other : c ≠ '.' := fun same => dot (same ▸ List.mem_reverse.mp listed)
    simpa using other
  have ends : path.name.toList.reverse = rest.reverse ++ '.' :: front.reverse := by
    rw [whole]
    simp
  unfold Path.suffix Path.splitName
  rw [ends]
  dsimp only
  rw [List.takeWhile_append_of_pos plain, List.dropWhile_append_of_pos plain]
  simp only [ne_eq, not_true_eq_false, decide_false, Bool.false_eq_true, not_false_eq_true, List.takeWhile_cons_of_neg,
    List.dropWhile_cons_of_neg, List.append_nil, List.reverse_eq_nil_iff, named, some, or_self, if_false,
    List.reverse_reverse]
  rw [Text.lowerText, String.toList_ofList, List.map_cons]
  rw [show Text.lower '.' = '.' by decide, lowered, String.ofList_toList]

end Target

/-! ### Where things stand -/

namespace FileTree

variable {tree : FileTree} {here there : Location} {names rest : List String} {links : Nat}

namespace Walk

theorem down (named : ∀ name ∈ names, name ≠ "." ∧ name ≠ "..")
    (standing : ∀ place, place <+: names → tree.entry? (here ++ place) = some .directory)
    (walk : tree.Walk (here ++ names) rest links there) : tree.Walk here (names ++ rest) links there := by
  induction names generalizing here with
  | nil => simpa using walk
  | cons name more ih =>
    have next : tree.entry? (here ++ [name]) = some .directory := standing [name] (by simp)
    refine .enter (named name List.mem_cons_self) (by simp [next]) (ih ?_ ?_ ?_)
    · exact fun other member => named other (List.mem_cons_of_mem _ member)
    · intro place prefixed
      simpa using standing (name :: place) (List.cons_prefix_cons.mpr ⟨rfl, prefixed⟩)
    · simpa using walk

theorem filter_isPart (walk : tree.Walk here rest links there) (filled : ∀ name ∈ rest, name ≠ "") :
    tree.Walk here (rest.filter Path.isPart) links there := by
  induction walk with
  | done here => exact .done here
  | stay dot _ ih =>
    rw [List.filter_cons_of_neg (by simp [Path.isPart, dot])]
    exact ih (List.forall_mem_cons.mp filled).2
  | up dots _ ih =>
    rw [List.filter_cons_of_pos (by rw [dots]; decide)]
    exact .up dots (ih (List.forall_mem_cons.mp filled).2)
  | enter named plain _ ih =>
    obtain ⟨some, later⟩ := List.forall_mem_cons.mp filled
    rw [List.filter_cons_of_pos (Path.isPart_iff.mpr ⟨some, named.1⟩)]
    exact .enter named plain (ih later)
  | pass named found replaced _ _ ih =>
    obtain ⟨some, later⟩ := List.forall_mem_cons.mp filled
    rw [List.filter_cons_of_pos (Path.isPart_iff.mpr ⟨some, named.1⟩)]
    exact .pass named found replaced (ih later)

end Walk

/-- What is found without following a last link is spelled with its name, unless the last step stays in place or
leads up. -/
theorem end_of_follow {first : List String} {name : String}
    (leads : tree.follow false links here (first ++ [name]) = .ok there) :
    (name = "." ∧ tree.entry? there = some .directory) ∨ name = ".." ∨
      (name ≠ "." ∧ there.getLast? = some name) := by
  generalize whole : first ++ [name] = rest at leads
  fun_induction follow tree false links here rest generalizing first with
  | case1 => simp at whole
  | case2 | case3 | case4 | case5 | case9 => cases leads
  | case6 links here more directory _ ih =>
    cases first with
    | nil =>
      obtain ⟨rfl, rfl⟩ := List.cons.inj whole
      rw [follow] at leads
      exact .inl ⟨rfl, Except.ok.inj leads ▸ directory⟩
    | cons _ behind => exact ih (List.cons.inj whole).2 leads
  | case7 links here more _ _ _ ih =>
    cases first with
    | nil => exact .inr (.inl (List.cons.inj whole).1)
    | cons _ behind => exact ih (List.cons.inj whole).2 leads
  | case8 links here other more _ _ dot _ next target =>
    rename_i last
    rw [← Except.ok.inj leads]
    cases first with
    | nil => exact .inr (.inr ((List.cons.inj whole).1 ▸ ⟨dot, by simp [next]⟩))
    | cons _ behind => simp [last.1] at whole
  | case10 here other more _ _ _ _ next target _ further =>
    rename_i fewer ih
    cases first with
    | nil => exact absurd ⟨(List.cons.inj whole).2.symm, rfl⟩ further
    | cons _ behind =>
      have behindLink : steps target ++ behind ++ [name] = steps target ++ more := by
        rw [← (List.cons.inj whole).2, List.append_assoc]
        rfl
      exact ih behindLink leads
  | case11 links here other more _ _ dot _ next =>
    rename_i ih
    cases first with
    | nil =>
      obtain ⟨rfl, rfl⟩ := List.cons.inj whole
      rw [follow] at leads
      rw [← Except.ok.inj leads]
      exact .inr (.inr ⟨dot, by simp [next]⟩)
    | cons _ behind => exact ih (List.cons.inj whole).2 leads

end FileTree

/-! ### Targets -/

namespace Path

/-- The path is spelled from a home directory. -/
def isHomely (path : Path) : Bool :=
  match path.anchor, path.parts with
  | .here, first :: _ => Text.startsIn first "~"
  | _, _ => false

theorem startsIn_ofString (text : String) : Text.startsIn text "/" = (ofString text).isAbsolute := by
  cases starts : Text.startsIn text "/" with
  | true => exact (isAbsolute_ofString (rooted_of_startsIn starts)).symm
  | false =>
    have here : anchorOf text = .here := by
      unfold anchorOf
      unfold Text.startsIn at starts
      cases spelled : text.toList with
      | nil => rfl
      | cons c rest =>
        rw [spelled] at starts
        have other : c ≠ '/' := by
          rintro rfl
          simp at starts
        rw [List.takeWhile_cons_of_neg (by simpa using other)]
        rfl
    simp [isAbsolute, ofString, here]

theorem mem_of_mem_toString_ofString {text : String} {c : Char} (plain : c ≠ '/' ∧ c ≠ '.')
    (member : c ∈ (ofString text).toString.toList) : c ∈ text.toList := by
  obtain ⟨part, listed, inside⟩ := (mem_toString_iff plain).mp member
  obtain ⟨cs, cut, rfl⟩ := List.mem_map.mp (List.mem_filter.mp listed).1
  rw [← Text.joinWith_splitAt '/' text.toList, Text.mem_joinWith_iff plain.1]
  exact ⟨cs, cut, by simpa using inside⟩

end Path

namespace Surroundings

open Target

variable {around : Surroundings} {text spelling : String} {located : Path} {location : Location}

theorem startOf_eq_origin (around : Surroundings) (text : String) :
    startOf text around.directory = around.origin (Path.ofString text) := by
  unfold startOf origin
  rw [Path.startsIn_ofString]

theorem walk_of_locate? (found : around.locate? true spelling = some location) :
    '\x00' ∉ (Path.ofString spelling).toString.toList ∧
      ∃ links, around.tree.Walk (around.origin (Path.ofString spelling)) (Path.ofString spelling).parts links location := by
  refine ⟨fun null => readable_of_locate? found (Path.mem_of_mem_toString_ofString (by decide) null), ?_⟩
  obtain ⟨_, _, leads⟩ := seek_eq_ok_iff.mp (seek_of_locate? found)
  obtain ⟨links, walk⟩ := walk_of_follow leads
  rw [startOf_eq_origin] at walk
  exact ⟨links, Path.filter_isPart_steps spelling ▸
    walk.filter_isPart fun name member => (isStep_of_mem_steps member).1⟩

/-- The canonical path of whatever is found is the place where it stands. -/
theorem canonical_of_locate? (settled : around.Settled) (found : around.locate? true spelling = some location) :
    around.canonical (Path.ofString spelling) = .ok ⟨.root, location⟩ := by
  obtain ⟨readable, links, walk⟩ := walk_of_locate? found
  have whole : around.tree.Walk [] (around.absolute (Path.ofString spelling)).parts links location := by
    unfold absolute Path.join
    unfold origin at walk
    split
    · rename_i absolute
      rwa [if_pos absolute] at walk
    · rename_i relative
      rw [if_neg relative] at walk
      refine Walk.down (fun name member => ?_) (fun place prefixed => ?_) walk
      · obtain ⟨isPart, _, dots, _⟩ := settled.legal name member
        exact ⟨(Path.isPart_iff.mp isPart).2, dots⟩
      · exact settled.standing place prefixed
  have nothing : around.tree.Entered links [] := ⟨List.nodup_nil, by simp⟩
  have replaced := whole.unlink nothing (Nat.le_add_left around.tree.entries.length 0)
  unfold canonical
  rw [if_neg (by simpa using readable)]
  simp only [replaced]

theorem lies_of_locate? (settled : around.Settled) {through : Bool}
    (found : around.locate? through spelling = some location) : around.tree.Lies location := by
  obtain ⟨_, _, leads⟩ := seek_eq_ok_iff.mp (seek_of_locate? found)
  exact lies_of_follow (settled.lies spelling) leads

theorem getLast?_of_locate? (settled : around.Settled) {bytes : List UInt8}
    (found : around.locate? false spelling = some location)
    (file : around.tree.entry? location = some (.file bytes)) (named : (Path.ofString spelling).name ≠ "..") :
    location.getLast? = some (Path.ofString spelling).name := by
  obtain ⟨_, _, leads⟩ := seek_eq_ok_iff.mp (seek_of_locate? found)
  rcases List.eq_nil_or_concat (steps spelling) with none | ⟨first, name, whole⟩
  · rw [none, follow] at leads
    rw [← Except.ok.inj leads, settled.start spelling] at file
    cases file
  · rw [List.concat_eq_append] at whole
    rw [whole] at leads
    have filled : name ≠ "" := (isStep_of_mem_steps (whole ▸ List.mem_concat_self)).1
    have last (other : name ≠ ".") : (Path.ofString spelling).name = name := by
      unfold Path.name
      rw [← Path.filter_isPart_steps, whole, List.filter_append,
        List.filter_cons_of_pos (Path.isPart_iff.mpr ⟨filled, other⟩), List.filter_nil, List.getLast?_concat]
      rfl
    rcases end_of_follow leads with ⟨_, directory⟩ | dots | ⟨dot, spelled⟩
    · rw [directory] at file
      cases file
    · exact absurd ((last (by rw [dots]; decide)).trans dots) named
    · rw [last dot, spelled]

/-! ### What a path resolves to -/

/-- The names in the file tree are names, and no text that paths are made of holds a NUL. -/
structure Readable (around : Surroundings) : Prop where
  named : around.Named
  names : ∀ name ∈ around.tree.names, '\x00' ∉ name.toList
  home : '\x00' ∉ around.home.own.toList
  others : ∀ known ∈ around.home.others, '\x00' ∉ known.2.toList

/-- Why what was located has no canonical path. -/
def Lost (around : Surroundings) (located : Path) : CanonicalFault → Prop
  | .homeUnknown => located.isHomely = true ∧ located.parts.head?.bind around.homeOf? = none
  | .circle _ => ∃ meant, around.expandHome located = .ok meant ∧
      ∀ spelling, Path.ofString spelling = meant → around.locate? true spelling = none
  | .embeddedNull => False

/-- Why a path does not resolve. -/
def Refused (around : Surroundings) (text : String) : TargetFault → Prop
  | .pathNotFound => around.pathExists text = false
  | .invalidPath => around.pathExists text = true ∧ around.isValidPath text = false
  | .workItemNotFound => around.isDirectory text = true ∧ isDescriptor text = false ∧
      ∀ path ∈ around.walk entersFolder (Path.ofString text), isDescriptor path.name = false
  | .unresolved fault => ∃ located, around.locateDescriptor text = .ok (some located) ∧ around.Lost located fault

/-- What becomes of a path for which a file was located. -/
structure Resolves (around : Surroundings) (text : String) (located : Path) (target : Target) : Prop where
  raw : target.raw = text
  kind : target.kind = if around.isDirectory text then .directory else .file
  found : around.locateDescriptor text = .ok (some located)
  descriptor : isDescriptor located.name = true
  /-- A path that is no directory is that of a file, and is located as it is spelled. -/
  given : around.isDirectory text = false → located = Path.ofString text ∧
    ∃ location bytes, around.locate? true text = some location ∧ around.tree.entry? location = some (.file bytes)
  key : target.resolved.IsKey
  /-- Whatever is found in the place of the located path, however that is spelled, is what is resolved. -/
  stands : located.isHomely = false → ∀ spelling location, Path.ofString spelling = located →
    around.locate? true spelling = some location →
    target.resolved = ⟨.root, location⟩ ∧ around.tree.Lies location
  /-- A file with a stem before its ending is opened by that ending, as long as no link stands in its place. -/
  opens : located.isHomely = false → ∀ spelling location bytes, Path.ofString spelling = located →
    around.locate? true spelling = some location → around.locate? false spelling = some location →
    around.tree.entry? location = some (.file bytes) → ∀ ending ∈ endings, hasEnding ending located.name = true →
      Text.lowerText located.name ≠ ending → Text.lowerText target.resolved.suffix = ending
  /-- What is spelled from a home directory is looked for there. -/
  home : ∀ first rest home, located = ⟨.here, first :: rest⟩ → around.homeOf? first = some home →
    around.canonical ((Path.ofString home).join ⟨.here, rest⟩) = .ok target.resolved

theorem isDescriptor_iff : isDescriptor text = true ↔ ∃ ending ∈ endings, hasEnding ending text = true :=
  List.any_eq_true

theorem isDescriptor_of_locateDescriptor (found : around.locateDescriptor text = .ok (some located)) :
    isDescriptor located.name = true := by
  rcases locateDescriptor_cases found with ⟨spelled, rfl⟩ | ⟨_, _, has⟩
  · obtain ⟨ending, member, has⟩ := isDescriptor_iff.mp spelled
    exact isDescriptor_iff.mpr ⟨ending, member, hasEnding_name_ofString member has⟩
  · exact isDescriptor_iff.mpr has

theorem not_isDescriptor_of_locateDescriptor (nothing : around.locateDescriptor text = .ok none) :
    isDescriptor text = false ∧
      ∀ path ∈ around.walk entersFolder (Path.ofString text), isDescriptor path.name = false := by
  unfold locateDescriptor at nothing
  split at nothing
  · cases nothing
  rename_i plain
  split at nothing
  · cases nothing
  refine ⟨by simpa using plain, fun path member => Bool.eq_false_iff.mpr fun descriptor => ?_⟩
  obtain ⟨ending, listed, has⟩ := isDescriptor_iff.mp descriptor
  have none := List.findSome?_eq_none_iff.mp (Except.ok.inj nothing) ending listed
  exact List.find?_eq_none.mp none path member has

theorem not_mem_of_pathExists (present : around.pathExists text = true) : '\x00' ∉ text.toList := by
  intro null
  have unread : around.find true text = .error .embeddedNull := if_pos (by simpa using null)
  simp [pathExists, isDirectory, isFile, unread] at present

theorem locateDescriptor_ne_error (present : around.pathExists text = true) (fault : CanonicalFault) :
    around.locateDescriptor text ≠ .error fault := by
  intro failed
  unfold locateDescriptor at failed
  split at failed
  · cases failed
  · rw [if_neg (by simpa using not_mem_of_pathExists present)] at failed
    cases failed

/-- What is located in readable surroundings can be read. -/
theorem not_mem_parts_of_locateDescriptor (readable : around.Readable) (present : around.pathExists text = true)
    (found : around.locateDescriptor text = .ok (some located)) :
    ∀ part ∈ located.parts, '\x00' ∉ part.toList := by
  have spelled : ∀ part ∈ (Path.ofString text).parts, '\x00' ∉ part.toList := fun part member null =>
    not_mem_of_pathExists present
      (Path.mem_of_mem_toString_ofString (by decide) ((Path.mem_toString_iff (by decide)).mpr ⟨part, member, null⟩))
  rcases locateDescriptor_cases found with ⟨_, rfl⟩ | ⟨_, below, _⟩
  · exact spelled
  · intro part member
    exact (mem_names_of_mem_filesBelow below part member).elim (spelled part) (readable.names part)

theorem expandHome_of_not_isHomely (plain : located.isHomely = false) :
    around.expandHome located = .ok located := by
  obtain ⟨anchor, parts⟩ := located
  cases anchor <;> cases parts with
  | nil => rfl
  | cons first rest =>
    first
      | rfl
      | have spelled : Text.startsIn first "~" = false := by simpa [Path.isHomely] using plain
        have unknown : around.homeOf? first = none := by
          unfold homeOf?
          rw [if_neg (by rintro rfl; cases plain), if_neg (by simp [spelled])]
        unfold expandHome
        dsimp only
        rw [unknown, if_neg (by simp [spelled])]

theorem lost_of_expandHome {fault : CanonicalFault} (failed : around.expandHome located = .error fault) :
    around.Lost located fault := by
  unfold expandHome at failed
  split at failed
  · rename_i first rest here parts
    split at failed
    · cases failed
    · rename_i unknown
      split at failed
      · rename_i homely
        cases failed
        exact ⟨by simp [Path.isHomely, here, parts, homely], by simpa [parts] using unknown⟩
      · cases failed
  · cases failed

theorem Readable.not_mem_home (readable : around.Readable) {first home : String}
    (known : around.homeOf? first = some home) : '\x00' ∉ home.toList := by
  unfold homeOf? at known
  split at known
  · exact Option.some.inj known ▸ readable.home
  · split at known
    · obtain ⟨before, after, split, -⟩ := List.lookup_eq_some_iff.mp known
      exact readable.others (_, home) (split ▸ List.mem_append_right before List.mem_cons_self)
    · cases known

theorem not_mem_toString_of_expandHome (readable : around.Readable) {meant : Path}
    (clear : ∀ part ∈ located.parts, '\x00' ∉ part.toList) (expanded : around.expandHome located = .ok meant) :
    '\x00' ∉ meant.toString.toList := by
  have told (path : Path) (parts : ∀ part ∈ path.parts, '\x00' ∉ part.toList) : '\x00' ∉ path.toString.toList := by
    intro null
    obtain ⟨part, member, inside⟩ := (Path.mem_toString_iff (by decide)).mp null
    exact parts part member inside
  rcases expandHome_cases expanded with ⟨first, rest, home, rfl, known, rfl⟩ | rfl
  · refine told _ fun part member => ?_
    rcases List.mem_append.mp member with home | below
    · exact fun null => readable.not_mem_home known (Path.mem_of_mem_toString_ofString (by decide)
        ((Path.mem_toString_iff (by decide)).mpr ⟨part, home, null⟩))
    · exact clear part (List.mem_cons_of_mem _ below)
  · exact told _ clear

/-- Only a circle keeps a readable path from having a canonical one. -/
theorem exists_circle_of_canonical {path : Path} {fault : CanonicalFault}
    (readable : '\x00' ∉ path.toString.toList) (failed : around.canonical path = .error fault) :
    ∃ place, fault = .circle place := by
  unfold canonical at failed
  rw [if_neg (by simpa using readable)] at failed
  dsimp only at failed
  split at failed
  · cases failed
  · split at failed
    · exact ⟨_, (Except.error.inj failed).symm⟩
    · cases failed

theorem refused_of_resolveTarget (readable : around.Readable) (settled : around.Settled) {fault : TargetFault}
    (fails : around.resolveTarget text = .error fault) : around.Refused text fault := by
  unfold resolveTarget at fails
  split at fails
  · rename_i missing
    cases fails
    exact (Bool.not_eq_true' _).mp missing
  rename_i present
  replace present : around.pathExists text = true := by simpa using present
  split at fails
  · rename_i unfit
    cases fails
    exact ⟨present, (Bool.not_eq_true' _).mp unfit⟩
  rename_i fit
  split at fails
  · rename_i found
    exact absurd found (locateDescriptor_ne_error present _)
  · rename_i nothing
    cases fails
    obtain ⟨plain, none⟩ := not_isDescriptor_of_locateDescriptor nothing
    exact ⟨by simpa [isValidPath, plain] using fit, plain, none⟩
  rename_i located found
  split at fails
  · rename_i cause lost
    cases fails
    refine ⟨located, found, ?_⟩
    cases expanded : around.expandHome located with
    | error other =>
      rw [expanded] at lost
      cases lost
      exact lost_of_expandHome expanded
    | ok meant =>
      replace lost : around.canonical meant = .error cause := by rwa [expanded] at lost
      have clear := not_mem_parts_of_locateDescriptor readable present found
      obtain ⟨place, rfl⟩ :=
        exists_circle_of_canonical (not_mem_toString_of_expandHome readable clear expanded) lost
      refine ⟨meant, expanded, fun spelling same => Option.eq_none_iff_forall_ne_some.mpr fun location stands => ?_⟩
      have led := canonical_of_locate? settled stands
      rw [same, lost] at led
      cases led
  · cases fails

theorem exists_of_pathExists (present : around.pathExists text = true) (plain : around.isDirectory text = false) :
    ∃ location bytes, around.locate? true text = some location ∧
      around.tree.entry? location = some (.file bytes) := by
  have file : around.kind? true text = some .file := by
    simpa [pathExists, plain, isFile_eq] using present
  rw [kind?_eq] at file
  obtain ⟨entry, found, kind⟩ := Option.map_eq_some_iff.mp file
  obtain ⟨location, stands, holds⟩ := Option.bind_eq_some_iff.mp found
  cases entry with
  | file bytes => exact ⟨location, bytes, stands, holds⟩
  | directory => cases kind
  | link target => cases kind

theorem resolves_of_resolveTarget (readable : around.Readable) (settled : around.Settled) {target : Target}
    (resolves : around.resolveTarget text = .ok target) : ∃ located, around.Resolves text located target := by
  have key := isKey_of_resolveTarget settled readable.named resolves
  obtain ⟨present, valid, located, meant, resolved, found, expanded, canonical, rfl⟩ := resolveTarget_eq_ok resolves
  have place (plain : located.isHomely = false) {spelling : String} {location : Location}
      (same : Path.ofString spelling = located) (stands : around.locate? true spelling = some location) :
      resolved = ⟨.root, location⟩ := by
    have led := canonical_of_locate? settled stands
    obtain rfl := Except.ok.inj ((expandHome_of_not_isHomely plain).symm.trans expanded)
    rw [same] at led
    exact Except.ok.inj (canonical.symm.trans led)
  have descriptor := isDescriptor_of_locateDescriptor found
  refine ⟨located, rfl, rfl, found, descriptor, fun plain => ⟨?_, exists_of_pathExists present plain⟩, key, ?_, ?_, ?_⟩
  · have spelled : isDescriptor text = true := by simpa [isValidPath, plain] using valid
    rcases locateDescriptor_cases found with ⟨_, own⟩ | ⟨other, _⟩
    · exact own
    · exact absurd spelled (Bool.eq_false_iff.mp other)
  · exact fun plain spelling location same stands => ⟨place plain same stands, lies_of_locate? settled stands⟩
  · intro plain spelling location bytes same stands unlinked file ending member has stem
    have named : located.name ≠ ".." := by
      intro dots
      rw [dots] at descriptor
      revert descriptor
      decide
    have last := getLast?_of_locate? settled unlinked file (same ▸ named)
    have name : resolved.name = located.name := by
      rw [place plain same stands, Path.name, last, same]
      rfl
    exact lowerText_suffix_of_hasEnding member (name ▸ has) (name ▸ stem)
  · rintro first rest home rfl known
    unfold expandHome at expanded
    dsimp only at expanded
    rw [known] at expanded
    obtain rfl := Except.ok.inj expanded
    exact canonical

/-- A path is refused for a reason, or has the file that was located for a target. -/
theorem resolveTarget_resolves (settled : around.Settled) (readable : around.Readable) (text : String) :
    match around.resolveTarget text with
    | .error fault => around.Refused text fault
    | .ok target => ∃ located, around.Resolves text located target := by
  split
  · rename_i fault fails
    exact refused_of_resolveTarget readable settled fails
  · rename_i target resolves
    exact resolves_of_resolveTarget readable settled resolves

/-- A directory with a solution, and one that is called as a home directory is. -/
def resolvedSample : Surroundings where
  tree := [(["r", "d", "A.Sln"], ""), (["r", "~", "a.csproj"], "<Project/>"), (["r", "a.csproj"], "<Project/>")].foldl
    (fun tree (location, text) => tree.plant location (.file (Text.Utf8.ofString text))) FileTree.empty
  directory := ["r"]
  home := "/r"

theorem resolveTarget_resolves_sample :
    (∃ located target, resolvedSample.resolveTarget "d" = .ok target ∧ resolvedSample.Resolves "d" located target ∧
      target.resolved = ⟨.root, ["r", "d", "A.Sln"]⟩ ∧ Text.lowerText target.resolved.suffix = ".sln") ∧
    (∃ located target, resolvedSample.resolveTarget "~/a.csproj" = .ok target ∧
      resolvedSample.Resolves "~/a.csproj" located target ∧ target.resolved = ⟨.root, ["r", "a.csproj"]⟩) ∧
    resolvedSample.Refused "b" .pathNotFound := by
  have settled : resolvedSample.Settled :=
    settled_of_directory rfl (by unfold Legal; decide) (by decide +kernel)
  have readable : resolvedSample.Readable := by
    have all : ∀ name ∈ resolvedSample.tree.names,
        (Path.isPart name = true ∧ '/' ∉ name.toList) ∧ '\x00' ∉ name.toList := by decide +kernel
    exact ⟨fun name member => (all name member).1, fun name member => (all name member).2, by decide, nofun⟩
  have below : resolvedSample.resolveTarget "d" =
      .ok ⟨"d", ⟨.root, ["r", "d", "A.Sln"]⟩, .directory⟩ := by decide +kernel
  have homely : resolvedSample.resolveTarget "~/a.csproj" =
      .ok ⟨"~/a.csproj", ⟨.root, ["r", "a.csproj"]⟩, .file⟩ := by decide +kernel
  have missing : resolvedSample.resolveTarget "b" = .error .pathNotFound := by decide +kernel
  have first := resolveTarget_resolves settled readable "d"
  have second := resolveTarget_resolves settled readable "~/a.csproj"
  have third := resolveTarget_resolves settled readable "b"
  rw [below] at first
  rw [homely] at second
  rw [missing] at third
  obtain ⟨located, resolves⟩ := first
  obtain ⟨spelled, home⟩ := second
  exact ⟨⟨located, _, below, resolves, rfl, by decide⟩, ⟨spelled, _, homely, home, rfl⟩, third⟩

end Surroundings
end UsingCensus
