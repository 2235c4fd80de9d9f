import UsingCensus.Proofs.Relocation
import UsingCensus.Proofs.Targets

namespace UsingCensus

open FileTree

/-! ### Texts of names -/

namespace Path

theorem filter_isPart_steps (text : String) : (steps text).filter isPart = (ofString text).parts := by
  have kept : ((pieces text).filter (· ≠ "")).filter isPart = (pieces text).filter isPart := by
    rw [List.filter_filter]
    refine List.filter_congr fun piece _ => ?_
    by_cases empty : piece = ""
    · simp [empty, isPart]
    · simp [empty]
  unfold steps
  dsimp only
  split
  · rw [List.filter_append, kept]
    exact List.append_nil _
  · exact kept

end Path

/-! ### Walks without links -/

namespace FileTree

variable {tree : FileTree} {base : Location} {links : Nat} {steps done : List String}

/-- A walk goes where its letters say. The names below the base are held in reverse. -/
def GoesBelow (tree : FileTree) (base : Location) (links : Nat) (done steps : List String) : Prop :=
  tree.Stays (base <+: ·) links (base ++ done.reverse) steps ∧
    ∀ through there, tree.follow through links (base ++ done.reverse) steps = .ok there →
      there = base ++ ((steps.filter Path.isPart).foldl (Path.pushPart false) done).reverse

theorem goesBelow_of_blocked (closed : tree.entry? (base ++ done.reverse) ≠ some .directory) (name : String)
    (more : List String) : tree.GoesBelow base links done (name :: more) := by
  refine ⟨.blocked (List.prefix_append _ _) closed, fun through there leads => ?_⟩
  rw [follow_blocked closed] at leads
  cases leads

theorem goesBelow_of_long {name : String} (long : (Text.Utf8.ofString name).length > nameLimit)
    (more : List String) : tree.GoesBelow base links done (name :: more) := by
  refine ⟨.long (List.prefix_append _ _) long, fun through there leads => ?_⟩
  rw [follow] at leads
  split at leads
  · cases leads
  · cases leads
  · cases leads
  · rw [if_pos long] at leads
    cases leads

theorem GoesBelow.stay {more : List String} (stands : tree.entry? (base ++ done.reverse) = some .directory)
    (goes : tree.GoesBelow base links done more) : tree.GoesBelow base links done ("." :: more) := by
  obtain ⟨stays, leads⟩ := goes
  refine ⟨.stay (List.prefix_append _ _) rfl stays, fun through there found => ?_⟩
  rw [follow_special stands (.inl rfl), if_pos rfl] at found
  rw [List.filter_cons_of_neg (by decide)]
  exact leads through there found

theorem GoesBelow.up {last : String} {before more : List String}
    (stands : tree.entry? (base ++ (last :: before).reverse) = some .directory) (different : last ≠ "..")
    (goes : tree.GoesBelow base links before more) : tree.GoesBelow base links (last :: before) (".." :: more) := by
  obtain ⟨stays, leads⟩ := goes
  have parent : (base ++ (last :: before).reverse).dropLast = base ++ before.reverse := by
    rw [List.reverse_cons, ← List.append_assoc, List.dropLast_concat]
  refine ⟨.up (List.prefix_append _ _) rfl (parent ▸ stays), fun through there found => ?_⟩
  rw [follow_special stands (.inr rfl), if_neg (by decide), parent] at found
  rw [List.filter_cons_of_pos (by decide), List.foldl_cons, Path.pushPart_up different before]
  exact leads through there found

theorem GoesBelow.enter {name : String} {more : List String}
    (stands : tree.entry? (base ++ done.reverse) = some .directory)
    (short : ¬ (Text.Utf8.ofString name).length > nameLimit) (part : Path.isPart name = true) (dots : name ≠ "..")
    (plain : ∀ target, tree.entry? (base ++ (name :: done).reverse) ≠ some (.link target))
    (goes : tree.GoesBelow base links (name :: done) more) : tree.GoesBelow base links done (name :: more) := by
  obtain ⟨stays, leads⟩ := goes
  have dot : name ≠ "." := (Path.isPart_iff.mp part).2
  have next : base ++ (name :: done).reverse = base ++ done.reverse ++ [name] := by
    rw [List.reverse_cons, List.append_assoc]
  rw [next] at plain
  refine ⟨.enter (List.prefix_append _ _) ⟨dot, dots⟩ plain (next ▸ stays), fun through there found => ?_⟩
  rw [List.filter_cons_of_pos part, List.foldl_cons, Path.pushPart_name dots done]
  refine leads through there ?_
  rw [follow_name stands short ⟨dot, dots⟩] at found
  split at found
  · rename_i target linked
    exact absurd linked (plain target)
  · rwa [next]

/-- Without links a walk stays below its base as long as its letters do. -/
theorem goesBelow_of_plain (plain : ∀ rest target, tree.entry? (base ++ rest) ≠ some (.link target))
    (filled : ∀ step ∈ steps, step ≠ "") (down : ".." ∉ done)
    (below : ".." ∉ (steps.filter Path.isPart).foldl (Path.pushPart false) done) :
    tree.GoesBelow base links done steps := by
  induction steps generalizing done with
  | nil =>
    refine ⟨.done (List.prefix_append _ _), fun through there leads => ?_⟩
    rw [follow] at leads
    exact (Except.ok.inj leads).symm
  | cons name more ih =>
    obtain ⟨named, later⟩ := List.forall_mem_cons.mp filled
    by_cases stands : tree.entry? (base ++ done.reverse) = some .directory
    case neg => exact goesBelow_of_blocked stands name more
    by_cases long : (Text.Utf8.ofString name).length > nameLimit
    case pos => exact goesBelow_of_long long more
    by_cases dot : name = "."
    · subst dot
      rw [List.filter_cons_of_neg (by decide)] at below
      exact (ih later down below).stay stands
    have part : Path.isPart name = true := Path.isPart_iff.mpr ⟨named, dot⟩
    rw [List.filter_cons_of_pos part, List.foldl_cons] at below
    by_cases dots : name = ".."
    · subst dots
      cases done with
      | nil => exact absurd (Path.mem_foldl_pushPart_of_mem List.mem_cons_self _) below
      | cons last before =>
        obtain ⟨different, down⟩ := not_or.mp (mt List.mem_cons.mpr down)
        rw [Path.pushPart_up (Ne.symm different) before] at below
        exact (ih later down below).up stands (Ne.symm different)
    · rw [Path.pushPart_name dots done] at below
      have stillDown : ".." ∉ name :: done := List.not_mem_cons_of_ne_of_not_mem (Ne.symm dots) down
      exact (ih later stillDown below).enter stands long part dots (plain _)

end FileTree

namespace Surroundings

open ProjectFile Wildcard

variable {around : Surroundings} {here there : Path} {text : String}

/-- No link stands below the folder. -/
def LinkFree (around : Surroundings) (folder : Path) : Prop :=
  ∀ rest target, around.tree.entry? (folder.parts ++ rest) ≠ some (.link target)

/-- Without links only the letters of a text count, and the length of a path that leads to something. -/
theorem inside_of_plain (plain : around.LinkFree here) (continues : Path.Continues text)
    (below : Path.StaysBelow (Path.ofString text).parts)
    (short : around.tree.entry? (here.parts ++ Path.normalParts false (Path.ofString text).parts) ≠ none →
      ∀ folder ∈ [here, there], (Text.Utf8.ofString (folder.toString ++ text)).length ≤ pathLimit) :
    around.Inside here there text := by
  have parts := Path.filter_isPart_steps text
  have filled : ∀ step ∈ steps text, step ≠ "" := fun step member => (isStep_of_mem_steps member).1
  have stays : ".." ∉ ((steps text).filter Path.isPart).foldl (Path.pushPart false) [] := by
    rw [parts]
    exact fun member => below (List.mem_reverse.mpr member)
  have goes : around.tree.GoesBelow here.parts linkLimit [] (steps text) :=
    goesBelow_of_plain plain filled List.not_mem_nil stays
  obtain ⟨stays, leads⟩ := goes
  rw [List.reverse_nil, List.append_nil] at stays leads
  refine ⟨continues, stays, below, fun through location found stands => short ?_⟩
  have place := leads through location found
  rw [parts] at place
  rwa [place] at stands

/-! ### Texts of names -/

/-- The path of what stands below the folder leaves room for a slash, under either name of the folder. -/
def Roomy (around : Surroundings) (here there : Path) : Prop :=
  ∀ names, around.tree.entry? (here.parts ++ names) ≠ none → ∀ folder ∈ [here, there],
    (Text.Utf8.ofString (Path.mk folder.anchor (folder.parts ++ names)).toString).length < pathLimit

/-- Names below a folder, perhaps with a slash at the end. -/
def Names (folder : Path) (text : String) : Prop :=
  ∃ names, (∀ name ∈ names, Legal name) ∧ ∃ behind ∈ ["", "/"],
    text = (Path.mk folder.anchor (folder.parts ++ names)).toString ++ behind

theorem isFolder_append {folder : Path} (isFolder : folder.IsFolder) {names : List String}
    (legal : ∀ name ∈ names, Legal name) : (Path.mk folder.anchor (folder.parts ++ names)).IsFolder where
  absolute := isFolder.absolute
  filled := by simp [isFolder.filled]
  legal := List.forall_mem_append.mpr ⟨isFolder.legal, legal⟩

theorem ofString_trail {names : List String} (legal : ∀ name ∈ names, Legal name) {behind : String}
    (continues : Path.Continues behind) :
    (Path.ofString (Path.trail names ++ behind)).parts = names ++ (Path.ofString behind).parts := by
  unfold Path.trail
  split
  · rename_i none
    rw [none, String.empty_append, List.nil_append]
  · rename_i named
    have isFolder : (Path.mk .root names).IsFolder := ⟨rfl, named, legal⟩
    rw [isFolder.ofString_append continues]

theorem normalParts_names {names : List String} (down : ".." ∉ names) :
    Path.normalParts false names = names := by
  unfold Path.normalParts
  rw [Path.foldl_pushPart_names down, List.append_nil, List.reverse_reverse]

theorem inside_trail (plain : around.LinkFree here) (roomy : around.Roomy here there) (isFolder : here.IsFolder)
    (also : there.IsFolder) {names : List String} (legal : ∀ name ∈ names, Legal name) {behind : String}
    (slash : behind ∈ ["", "/"]) : around.Inside here there (Path.trail names ++ behind) := by
  have down : ".." ∉ names := fun member => (legal _ member).2.2.1 rfl
  have ending : Path.Continues behind ∧ (Path.ofString behind).parts = [] ∧
      (Text.Utf8.ofString behind).length ≤ 1 := by
    rcases List.mem_cons.mp slash with rfl | slash
    · exact ⟨.inl rfl, rfl, by decide⟩
    · rw [List.mem_singleton.mp slash]
      exact ⟨.inr ⟨"", rfl⟩, by decide, by decide⟩
  obtain ⟨continues, nothing, little⟩ := ending
  have parts : (Path.ofString (Path.trail names ++ behind)).parts = names := by
    rw [ofString_trail legal continues, nothing, List.append_nil]
  refine inside_of_plain plain ((Path.continues_trail names).append continues) ?_ ?_
  · rw [parts, Path.StaysBelow, normalParts_names down]
    exact down
  · rw [parts, normalParts_names down]
    intro stands folder member
    have room := roomy names stands folder member
    have spelled : folder.toString ++ (Path.trail names ++ behind) =
        (Path.mk folder.anchor (folder.parts ++ names)).toString ++ behind := by
      have either : folder.IsFolder := by
        rcases List.mem_cons.mp member with rfl | member
        · exact isFolder
        · exact List.mem_singleton.mp member ▸ also
      rw [either.toString_append, String.append_assoc]
    rw [spelled, Text.Utf8.length_ofString_append]
    omega

theorem known_of_names (plain : around.LinkFree here) (roomy : around.Roomy here there) (isFolder : here.IsFolder)
    (also : there.IsFolder) (named : Names here text) : Moves.Known around here there text := by
  obtain ⟨names, legal, behind, slash, rfl⟩ := named
  refine ⟨Path.trail names ++ behind, ?_, inside_trail plain roomy isFolder also legal slash⟩
  rw [isFolder.toString_append, String.append_assoc]

/-! ### Ordinary patterns -/

theorem below_behind {folder : Path} (isFolder : folder.IsFolder) {behind : String} (slash : behind ∈ ["", "/"])
    (name : String) : below (folder.toString ++ behind) name = folder.toString ++ "/" ++ name := by
  rcases List.mem_cons.mp slash with rfl | slash
  · rw [below_append isFolder (.inl rfl), extend_empty, String.append_assoc]
  · have continues : Path.Continues "/" := .inr ⟨"", rfl⟩
    rw [List.mem_singleton.mp slash, below_append isFolder continues, String.append_assoc]
    have ends : Text.endsIn "/" "/" = true := by decide
    unfold extend
    by_cases empty : name = ""
    · subst empty
      rfl
    · simp [ends, empty]

theorem toString_child {folder : Path} (isFolder : folder.IsFolder) (name : String) :
    folder.toString ++ "/" ++ name = (folder.child name).toString := by
  have child : (folder.child name).toString = folder.toString ++ Path.trail [name] := isFolder.toString_append [name]
  rw [child, Path.trail_cons, String.append_assoc]

theorem below_of_legal {name : String} (legal : Legal name) (rest : String) :
    below name rest = name ++ "/" ++ rest := by
  have filled : name ≠ "" := (Path.isPart_iff.mp legal.1).1
  have open_ : Text.endsIn name "/" = false := by
    unfold Text.endsIn
    rw [← Bool.not_eq_true, List.isSuffixOf_iff_suffix]
    exact fun suffix => legal.2.1 (suffix.mem (List.mem_singleton_self _))
  unfold below
  rw [if_neg filled]
  simp [open_]

theorem below_names (isFolder : here.IsFolder) (named : Names here text) {name : String} (legal : Legal name) :
    Names here (below text name) := by
  obtain ⟨names, all, behind, slash, rfl⟩ := named
  have deeper := isFolder_append isFolder all
  refine ⟨names ++ [name], List.forall_mem_append.mpr ⟨all, List.forall_mem_singleton.mpr legal⟩, "", by simp, ?_⟩
  rw [below_behind deeper slash, toString_child deeper, String.append_empty, ← List.append_assoc]
  rfl

theorem below_empty_names (isFolder : here.IsFolder) (named : Names here text) : Names here (below text "") := by
  obtain ⟨names, all, behind, slash, rfl⟩ := named
  refine ⟨names, all, "/", by simp, ?_⟩
  rw [below_behind (isFolder_append isFolder all) slash, String.append_empty]

theorem descends_names {folder : Path} (isFolder : folder.IsFolder) {found : String}
    (descends : Descends (fun name => Legal name ∧ isHidden name = false) found) :
    ∃ names, (∀ name ∈ names, Legal name ∧ isHidden name = false) ∧
      folder.toString ++ "/" ++ found = (Path.mk folder.anchor (folder.parts ++ names)).toString := by
  induction descends generalizing folder with
  | one named => exact ⟨_, List.forall_mem_singleton.mpr named, toString_child isFolder _⟩
  | @more name text named later ih =>
    have deeper : (folder.child name).IsFolder := isFolder_append isFolder (List.forall_mem_singleton.mpr named.1)
    obtain ⟨names, all, same⟩ := ih deeper
    refine ⟨name :: names, List.forall_mem_cons.mpr ⟨named, all⟩, ?_⟩
    rw [below_of_legal named.1, ← String.append_assoc, ← String.append_assoc, toString_child isFolder, same,
      Path.child, List.append_assoc, List.singleton_append]

theorem place_names (isFolder : here.IsFolder) (named : Names here text) : place text = text := by
  obtain ⟨names, all, behind, _, rfl⟩ := named
  exact if_neg ((isFolder_append isFolder all).append_ne_empty behind)

theorem seekable_of_names (plain : around.LinkFree here) (roomy : around.Roomy here there) (isFolder : here.IsFolder)
    (also : there.IsFolder) {parts : List String}
    (ordinary : ∀ part ∈ parts, isPattern part = true ∨ part = "" ∨ Legal part) (named : Names here text) :
    Seekable (Moves.Known around here there) Legal parts text := by
  have known {text : String} (named : Names here text) : Moves.Known around here there text :=
    known_of_names plain roomy isFolder also named
  induction parts generalizing text with
  | nil => exact known named
  | cons part rest ih =>
    obtain ⟨first, later⟩ := List.forall_mem_cons.mp ordinary
    refine ⟨known named, ?_⟩
    split
    · have names (listed : List String) (all : ∀ name ∈ listed, Legal name ∧ isHidden name = false) :
          Names here (listed.foldl below text) := by
        induction listed generalizing text with
        | nil => exact named
        | cons name more down =>
          obtain ⟨legal, others⟩ := List.forall_mem_cons.mp all
          exact down (below_names isFolder named legal.1) others
      refine ⟨fun listed all => ⟨known (names listed all), fun name legal _ => ?_⟩,
        ih later (below_empty_names isFolder named), fun found descends => ih later ?_⟩
      · rw [place_names isFolder (names listed all)]
        exact known (below_names isFolder (names listed all) legal)
      · obtain ⟨passed, all, behind, slash, rfl⟩ := named
        have deeper := isFolder_append isFolder all
        obtain ⟨more, others, same⟩ := descends_names deeper descends
        have legal (name : String) (member : name ∈ more) : Legal name := (others name member).1
        refine ⟨passed ++ more, List.forall_mem_append.mpr ⟨all, legal⟩, "", by simp, ?_⟩
        rw [below_behind deeper slash, same, String.append_empty, List.append_assoc]
    · split
      · intro name legal _
        rw [place_names isFolder named]
        exact ⟨known (below_names isFolder named legal), ih later (below_names isFolder named legal)⟩
      · rename_i literal
        have next : Names here (below text part) := by
          rcases first.resolve_left literal with rfl | legal
          · exact below_empty_names isFolder named
          · exact below_names isFolder named legal
        exact ⟨known next, ih later next⟩

/-- In a folder without links the search for default items looks at nothing outside. -/
theorem enclosed_of_plain (plain : around.LinkFree here) (roomy : around.Roomy here there) (isFolder : here.IsFolder)
    (also : there.IsFolder) : around.Enclosed here there := by
  have inside {names : List String} (legal : ∀ name ∈ names, Legal name) :
      around.Inside here there (Path.trail names) := by
    have whole := inside_trail plain roomy isFolder also legal (List.mem_cons_self : "" ∈ ["", "/"])
    rwa [String.append_empty] at whole
  intro names legal _
  refine ⟨inside legal, fun name named => inside ?_⟩
  exact List.forall_mem_append.mpr ⟨legal, List.forall_mem_singleton.mpr named⟩

theorem contained_of_names (plain : around.LinkFree here) (roomy : around.Roomy here there) (isFolder : here.IsFolder)
    (also : there.IsFolder) (literal : isPattern here.toString = false) (alsoLiteral : isPattern there.toString = false)
    {part : String} (wildcard : ItemList.hasWildcard part = true) (relative : Text.startsIn part "/" = false)
    (names : List String) (legal : ∀ name ∈ names, Legal name) (front : plainTail part = Path.trail names)
    (ordinary : ∀ piece ∈ patternTail part, isPattern piece = true ∨ piece = "" ∨ Legal piece) :
    around.Contained here there part := by
  refine .pattern wildcard relative literal alsoLiteral ?_
  refine seekable_of_names plain roomy isFolder also ordinary ⟨names, legal, "", by simp, ?_⟩
  rw [front, isFolder.toString_append, String.append_empty]

end Surroundings
end UsingCensus
