import UsingCensus.FileTree.Follow
import UsingCensus.Path.Normal

namespace UsingCensus

namespace Text

theorem not_mem_of_mem_splitAt {separator : Char} {cs part : List Char}
    (member : part ∈ splitAt separator cs) : separator ∉ part := by
  induction cs generalizing part with
  | nil =>
    have empty : part = [] := by simpa [splitAt] using member
    simp [empty]
  | cons c rest ih =>
    simp only [splitAt] at member
    split at member
    · rcases List.mem_cons.mp member with rfl | member
      · simp
      · exact ih member
    · rename_i different
      cases cut : splitAt separator rest with
      | nil => exact absurd cut (splitAt_ne_nil separator rest)
      | cons first more =>
        rw [cut] at member ih
        rcases List.mem_cons.mp member with rfl | member
        · have absent := ih List.mem_cons_self
          simpa [Ne.symm different] using absent
        · exact ih (List.mem_cons_of_mem _ member)

theorem splitAt_append {separator : Char} {part : List Char} (absent : separator ∉ part)
    (rest : List Char) : splitAt separator (part ++ separator :: rest) =
      part :: splitAt separator rest := by
  induction part with
  | nil => simp [splitAt]
  | cons c more ih =>
    simp only [List.mem_cons, not_or] at absent
    obtain ⟨different, absent⟩ := absent
    simp only [List.cons_append, splitAt, if_neg (Ne.symm different), ih absent]

theorem splitAt_of_not_mem {separator : Char} {part : List Char} (absent : separator ∉ part) :
    splitAt separator part = [part] := by
  induction part with
  | nil => rfl
  | cons c more ih =>
    simp only [List.mem_cons, not_or] at absent
    obtain ⟨different, absent⟩ := absent
    simp only [splitAt, if_neg (Ne.symm different), ih absent]

theorem splitAt_joinWith {separator : Char} {parts : List (List Char)} (some : parts ≠ [])
    (absent : ∀ part ∈ parts, separator ∉ part) :
    splitAt separator (joinWith separator parts) = parts := by
  induction parts with
  | nil => exact absurd rfl some
  | cons part rest ih =>
    have here := absent part List.mem_cons_self
    cases rest with
    | nil => exact splitAt_of_not_mem here
    | cons next more =>
      have later := ih (by simp) fun other member => absent other (List.mem_cons_of_mem _ member)
      rw [joinWith, splitAt_append here, later]
      simp

theorem joinWith_cons_of_ne_nil {separator : Char} {part : List Char} {parts : List (List Char)}
    (some : parts ≠ []) :
    joinWith separator (part :: parts) = part ++ separator :: joinWith separator parts := by
  cases parts with
  | nil => exact absurd rfl some
  | cons next more => rfl

theorem intercalate_eq_joinWith (separator : Char) (parts : List (List Char)) :
    [separator].intercalate parts = joinWith separator parts := by
  induction parts with
  | nil => rfl
  | cons part rest ih =>
    cases rest with
    | nil => simp [List.intercalate, joinWith]
    | cons next more =>
      simp only [List.intercalate] at ih
      simp [List.intercalate, joinWith, ih]

theorem getLast?_joinWith {separator : Char} {parts : List (List Char)} (nonempty : parts ≠ [])
    (sound : ∀ part ∈ parts, part ≠ [] ∧ separator ∉ part) :
    ∃ c, (joinWith separator parts).getLast? = some c ∧ c ≠ separator := by
  induction parts with
  | nil => exact absurd rfl nonempty
  | cons part rest ih =>
    cases rest with
    | nil =>
      obtain ⟨filled, absent⟩ := sound part List.mem_cons_self
      refine ⟨part.getLast filled, List.getLast?_eq_some_getLast filled, ?_⟩
      exact fun same => absent (same ▸ List.getLast_mem filled)
    | cons next more =>
      obtain ⟨c, last, different⟩ :=
        ih (by simp) fun other member => sound other (List.mem_cons_of_mem _ member)
      refine ⟨c, ?_, different⟩
      rw [joinWith_cons_of_ne_nil (by simp), List.getLast?_append, List.getLast?_cons, last]
      rfl

theorem mem_joinWith_iff {separator c : Char} (different : c ≠ separator)
    {parts : List (List Char)} : c ∈ joinWith separator parts ↔ ∃ part ∈ parts, c ∈ part := by
  induction parts with
  | nil => simp [joinWith]
  | cons part rest ih =>
    cases rest with
    | nil => simp [joinWith]
    | cons next more =>
      rw [joinWith_cons_of_ne_nil (by simp), List.mem_append, List.mem_cons, ih]
      simp [different]

theorem length_le_length_joinWith (separator : Char) {parts : List (List Char)}
    (filled : ∀ part ∈ parts, part ≠ []) : parts.length ≤ (joinWith separator parts).length := by
  induction parts with
  | nil => exact Nat.zero_le _
  | cons part rest ih =>
    have here := List.length_pos_iff.mpr (filled part List.mem_cons_self)
    have later := ih fun other member => filled other (List.mem_cons_of_mem _ member)
    cases rest with
    | nil => exact here
    | cons next more =>
      rw [joinWith_cons_of_ne_nil (by simp)]
      simp only [List.length_append, List.length_cons] at later ⊢
      omega

theorem length_le_length_encode (cs : List Char) : cs.length ≤ (Utf8.encode cs).length := by
  induction cs with
  | nil => exact Nat.zero_le _
  | cons c rest ih =>
    have some : 0 < (Utf8.encodeChar c).length := by
      unfold Utf8.encodeChar
      dsimp only
      repeat' split
      all_goals simp
    unfold Utf8.encode at ih ⊢
    simp only [List.flatMap_cons, List.length_append, List.length_cons]
    omega

end Text

namespace Path

theorem isPart_iff {part : String} : isPart part = true ↔ part ≠ "" ∧ part ≠ "." := by
  simp [isPart]

/-- Each part is a name or leads up. -/
def Proper (path : Path) : Prop :=
  ∀ part ∈ path.parts, isPart part = true ∧ '/' ∉ part.toList

theorem proper_ofString (text : String) : (ofString text).Proper := by
  intro part member
  obtain ⟨piece, isPart⟩ := List.mem_filter.mp member
  obtain ⟨cs, cut, rfl⟩ := List.mem_map.mp piece
  refine ⟨isPart, ?_⟩
  rw [String.toList_ofList]
  exact Text.not_mem_of_mem_splitAt cut

theorem Proper.join {path next : Path} (proper : path.Proper) (also : next.Proper) :
    (path.join next).Proper := by
  unfold Path.join
  split
  · exact also
  · intro part member
    rcases List.mem_append.mp member with first | second
    · exact proper part first
    · exact also part second

theorem Proper.parent {path : Path} (proper : path.Proper) : path.parent.Proper :=
  fun part member => proper part (List.dropLast_subset _ member)

/-! ### Normal paths -/

theorem mem_pushPart {anchored : Bool} {done : List String} {part other : String}
    (member : other ∈ pushPart anchored done part) : other ∈ done ∨ other = part := by
  unfold pushPart at member
  split at member
  · rename_i up
    split at member
    · split at member
      · cases member
      · exact .inr (up ▸ List.mem_singleton.mp member)
    · split at member
      · rcases List.mem_cons.mp member with same | old
        · exact .inr (same.trans up.symm)
        · exact .inl old
      · exact .inl (List.mem_cons_of_mem _ member)
  · rcases List.mem_cons.mp member with same | old
    · exact .inr same
    · exact .inl old

theorem mem_foldl_pushPart {anchored : Bool} {done parts : List String} {part : String}
    (member : part ∈ parts.foldl (pushPart anchored) done) : part ∈ done ∨ part ∈ parts := by
  induction parts generalizing done with
  | nil => exact .inl member
  | cons first rest ih =>
    rcases ih member with pushed | later
    · rcases mem_pushPart pushed with old | same
      · exact .inl old
      · exact .inr (same ▸ List.mem_cons_self)
    · exact .inr (List.mem_cons_of_mem _ later)

theorem Proper.normal {path : Path} (proper : path.Proper) : path.normal.Proper := by
  intro part member
  have pushed := List.mem_reverse.mp member
  rcases mem_foldl_pushPart pushed with impossible | original
  · cases impossible
  · exact proper part original

theorem pushPart_name {anchored : Bool} {name : String} (named : name ≠ "..") (done : List String) :
    pushPart anchored done name = name :: done :=
  if_neg named

theorem pushPart_up {anchored : Bool} {last : String} (named : last ≠ "..") (before : List String) :
    pushPart anchored (last :: before) ".." = before := by
  unfold pushPart
  rw [if_pos rfl]
  exact if_neg named

/-- Parts in reverse, as they are held while normalising: names, and in a relative path ways up below. -/
def Stacked (anchored : Bool) (done : List String) : Prop :=
  ∃ ups names, done = names ++ List.replicate ups ".." ∧ ".." ∉ names ∧ (anchored = true → ups = 0)

theorem Stacked.pushPart {anchored : Bool} {done : List String} (stacked : Stacked anchored done)
    (part : String) : Stacked anchored (pushPart anchored done part) := by
  obtain ⟨ups, names, rfl, down, rooted⟩ := stacked
  by_cases up : part = ".."
  · subst up
    cases names with
    | nil =>
      cases ups with
      | zero =>
        cases anchored
        · exact ⟨1, [], rfl, by simp, by simp⟩
        · exact ⟨0, [], rfl, by simp, by simp⟩
      | succ fewer =>
        have relative : anchored ≠ true := fun yes => by simpa using rooted yes
        exact ⟨fewer + 2, [], rfl, by simp, fun yes => absurd yes relative⟩
    | cons last before =>
      have named : last ≠ ".." := fun same => down (same ▸ List.mem_cons_self)
      rw [List.cons_append, pushPart_up named]
      exact ⟨ups, before, rfl, fun member => down (List.mem_cons_of_mem _ member), rooted⟩
  · rw [pushPart_name up]
    exact ⟨ups, part :: names, rfl, by simp [Ne.symm up, down], rooted⟩

theorem Stacked.foldl {anchored : Bool} {done : List String} (stacked : Stacked anchored done)
    (parts : List String) : Stacked anchored (parts.foldl (Path.pushPart anchored) done) := by
  induction parts generalizing done with
  | nil => exact stacked
  | cons part rest ih => exact ih (stacked.pushPart part)

/-- Ways up lead a normal path off, and only a relative one. -/
def Normal (path : Path) : Prop :=
  ∃ ups names, path.parts = List.replicate ups ".." ++ names ∧ ".." ∉ names ∧
    (path.isAbsolute = true → ups = 0)

theorem normal_normal (path : Path) : path.normal.Normal := by
  have empty : Stacked path.isAbsolute [] := ⟨0, [], rfl, by simp, fun _ => rfl⟩
  obtain ⟨ups, names, stacked, down, rooted⟩ := empty.foldl path.parts
  refine ⟨ups, names.reverse, ?_, by simpa using down, rooted⟩
  change (path.parts.foldl (pushPart path.isAbsolute) []).reverse = _
  rw [stacked, List.reverse_append, List.reverse_replicate]

theorem foldl_pushPart_names {anchored : Bool} {names : List String} (down : ".." ∉ names)
    (done : List String) : names.foldl (pushPart anchored) done = names.reverse ++ done := by
  induction names generalizing done with
  | nil => rfl
  | cons name rest ih =>
    simp only [List.mem_cons, not_or] at down
    rw [List.foldl_cons, pushPart_name (Ne.symm down.1), ih down.2]
    simp

theorem foldl_pushPart_ups {done : List String} (down : ".." ∉ done) (ups : Nat) :
    (List.replicate ups "..").foldl (pushPart true) done = done.drop ups := by
  induction ups generalizing done with
  | zero => rfl
  | succ fewer ih =>
    rw [List.replicate_succ, List.foldl_cons]
    cases done with
    | nil =>
      have nothing : ".." ∉ ([] : List String) := by simp
      simpa [pushPart] using ih nothing
    | cons last before =>
      simp only [List.mem_cons, not_or] at down
      rw [pushPart_up (Ne.symm down.1), ih down.2, List.drop_succ_cons]

theorem Normal.normal_eq {path : Path} (normal : path.Normal) (absolute : path.isAbsolute = true) :
    path.normal = path := by
  obtain ⟨ups, names, parts, down, rooted⟩ := normal
  rw [rooted absolute, List.replicate_zero, List.nil_append] at parts
  have kept : normalParts path.isAbsolute path.parts = path.parts := by
    rw [normalParts, parts, foldl_pushPart_names down]
    simp
  rw [Path.normal, kept]

/-- A path that projects are known by. -/
structure IsKey (path : Path) : Prop where
  proper : path.Proper
  absolute : path.isAbsolute = true
  normal : path.Normal

theorem IsKey.named {path : Path} (key : path.IsKey) :
    ∀ part ∈ path.parts, part ≠ "." ∧ part ≠ ".." := by
  intro part member
  refine ⟨(isPart_iff.mp (key.proper part member).1).2, ?_⟩
  rintro rfl
  obtain ⟨ups, names, parts, down, rooted⟩ := key.normal
  rw [parts, rooted key.absolute] at member
  exact down member

/-! ### The text of a path -/

theorem toList_toString (path : Path) (named : path.parts ≠ []) :
    path.toString.toList =
      path.anchor.text.toList ++ Text.joinWith '/' (path.parts.map String.toList) := by
  unfold Path.toString
  rw [if_neg (fun both => named both.2), String.toList_append, String.toList_intercalate]
  exact congrArg _ (Text.intercalate_eq_joinWith '/' _)

private theorem Proper.sound {path : Path} (proper : path.Proper) :
    ∀ part ∈ path.parts.map String.toList, part ≠ [] ∧ '/' ∉ part := by
  intro cs member
  obtain ⟨part, found, rfl⟩ := List.mem_map.mp member
  obtain ⟨isPart, absent⟩ := proper part found
  exact ⟨fun empty => (isPart_iff.mp isPart).1 (String.toList_eq_nil_iff.mp empty), absent⟩

theorem Proper.exists_joinWith {path : Path} (proper : path.Proper) (named : path.parts ≠ []) :
    ∃ c more, Text.joinWith '/' (path.parts.map String.toList) = c :: more ∧ c ≠ '/' := by
  obtain ⟨name, others, parts⟩ := List.exists_cons_of_ne_nil named
  obtain ⟨filled, slash⟩ := proper.sound name.toList (by simp [parts])
  obtain ⟨c, more, letters⟩ := List.exists_cons_of_ne_nil filled
  have different : c ≠ '/' := by
    rintro rfl
    exact slash (letters ▸ List.mem_cons_self)
  rw [parts, List.map_cons, letters]
  cases others with
  | nil => exact ⟨c, more, rfl, different⟩
  | cons next others => exact ⟨c, _, rfl, different⟩

theorem Proper.getLast? {path : Path} (proper : path.Proper) (named : path.parts ≠ []) :
    ∃ c, path.toString.toList.getLast? = some c ∧ c ≠ '/' := by
  have filled : path.parts.map String.toList ≠ [] := by simpa using named
  obtain ⟨c, last, different⟩ := Text.getLast?_joinWith filled proper.sound
  refine ⟨c, ?_, different⟩
  rw [path.toList_toString named, List.getLast?_append, last]
  rfl

theorem Proper.endsIn {path : Path} (proper : path.Proper) (named : path.parts ≠ []) :
    Text.endsIn path.toString "/" = false := by
  obtain ⟨c, last, different⟩ := proper.getLast? named
  apply Bool.eq_false_iff.mpr
  intro suffix
  obtain ⟨before, same⟩ := List.isSuffixOf_iff_suffix.mp suffix
  have ends := congrArg List.getLast? same
  rw [last, List.getLast?_append] at ends
  simp at ends
  exact different ends.symm

theorem Proper.steps {path : Path} (proper : path.Proper) (named : path.parts ≠ []) :
    FileTree.steps path.toString = path.parts := by
  have filled : path.parts.map String.toList ≠ [] := by simpa using named
  have cut : ∃ slashes, Text.splitAt '/' path.toString.toList =
      List.replicate slashes [] ++ path.parts.map String.toList := by
    rw [path.toList_toString named]
    have joined := Text.splitAt_joinWith filled fun part member => (proper.sound part member).2
    cases path.anchor with
    | here => exact ⟨0, by simpa [Anchor.text] using joined⟩
    | root => exact ⟨1, by simpa [Anchor.text, Text.splitAt] using joined⟩
    | doubleRoot => exact ⟨2, by simpa [Anchor.text, Text.splitAt, List.replicate] using joined⟩
  have pieces : (Path.pieces path.toString).filter (· ≠ "") = path.parts := by
    obtain ⟨slashes, cut⟩ := cut
    unfold Path.pieces
    rw [cut, List.map_append, List.filter_append, List.map_map]
    have kept : ∀ part ∈ path.parts, part ≠ "" :=
      fun part member => (isPart_iff.mp (proper part member).1).1
    simpa using kept
  unfold FileTree.steps
  simp only [pieces, proper.endsIn named, Bool.false_eq_true, if_false]

theorem Proper.startsIn {path : Path} (proper : path.Proper) :
    Text.startsIn path.toString "/" = path.isAbsolute := by
  obtain ⟨anchor, parts⟩ := path
  cases parts with
  | nil => cases anchor <;> rfl
  | cons part rest =>
    obtain ⟨filled, absent⟩ := proper.sound part.toList (by simp)
    unfold Text.startsIn
    rw [toList_toString _ (by simp)]
    cases anchor with
    | here =>
      cases first : part.toList with
      | nil => exact absurd first filled
      | cons c more =>
        rw [first] at absent
        have different : '/' ≠ c := fun same => absent (same ▸ List.mem_cons_self)
        cases rest <;> simp [Anchor.text, Text.joinWith, first, List.isPrefixOf, different, isAbsolute]
    | root => simp [Anchor.text, isAbsolute]
    | doubleRoot => simp [Anchor.text, isAbsolute]

theorem Proper.length_parts {path : Path} (proper : path.Proper) (absolute : path.isAbsolute = true) :
    path.parts.length < (Text.Utf8.ofString path.toString).length := by
  have characters := Text.length_le_length_encode path.toString.toList
  have slash : 0 < path.anchor.text.toList.length := by
    cases at_ : path.anchor with
    | here => simp [isAbsolute, at_] at absolute
    | root => decide
    | doubleRoot => decide
  by_cases named : path.parts = []
  · rw [named]
    obtain ⟨anchor, parts⟩ := path
    cases named
    cases anchor with
    | here => cases absolute
    | root => decide
    | doubleRoot => decide
  have parts := Text.length_le_length_joinWith '/' fun part member => (proper.sound part member).1
  rw [path.toList_toString named, List.length_append] at characters
  rw [List.length_map] at parts
  unfold Text.Utf8.ofString
  rw [path.toList_toString named]
  omega

theorem mem_toString_iff {path : Path} {c : Char} (plain : c ≠ '/' ∧ c ≠ '.') :
    c ∈ path.toString.toList ↔ ∃ part ∈ path.parts, c ∈ part.toList := by
  obtain ⟨noSlash, noDot⟩ := plain
  by_cases named : path.parts = []
  · obtain ⟨anchor, parts⟩ := path
    cases named
    cases anchor <;> simp [Path.toString, Anchor.text, noSlash, noDot]
  · rw [path.toList_toString named, List.mem_append, Text.mem_joinWith_iff noSlash]
    have anchored : c ∉ path.anchor.text.toList := by
      cases path.anchor <;> simp [Anchor.text, noSlash]
    constructor
    · rintro (inside | ⟨cs, listed, inside⟩)
      · exact absurd inside anchored
      · obtain ⟨part, member, rfl⟩ := List.mem_map.mp listed
        exact ⟨part, member, inside⟩
    · rintro ⟨part, member, inside⟩
      exact .inr ⟨part.toList, List.mem_map.mpr ⟨part, member, rfl⟩, inside⟩

end Path
end UsingCensus
