import UsingCensus.Proofs.References

namespace UsingCensus.Surroundings

open FileTree

variable {around : Surroundings} {path : Path} {project : Project} {reports : List String}

theorem visit_eq_loaded_iff :
    around.visit path = .loaded project reports ↔
      around.isFile path.toString = true ∧ around.evaluate path = .ok (project, reports) := by
  unfold visit probe isFile
  cases found : around.find true path.toString with
  | error fault =>
    cases fault with
    | embeddedNull => simp
    | refused cause text => cases cause <;> simp
  | ok entry =>
    cases entry with
    | file bytes =>
      cases evaluated : around.evaluate path with
      | error fault => by_cases isLocal : fault.isLocal = true <;> simp [isLocal]
      | ok both =>
        obtain ⟨first, second⟩ := both
        simp
    | _ => simp

theorem message_of_skipped {message : String} (skips : around.visit path = .skipped message) :
    message = missingProject path ∨
      ∃ fault, around.evaluate path = .error fault ∧ message = fault.message := by
  unfold visit at skips
  split at skips
  · cases skips
  · split at skips
    · cases skips
    · rename_i fault evaluated
      split at skips
      · cases skips
        exact .inr ⟨fault, evaluated, rfl⟩
      · cases skips
  · cases skips
    exact .inl rfl

theorem visit_of_no_file {found : Option Entry} (probed : around.probe path.toString = .ok found)
    (noFile : ∀ bytes, found ≠ some (.file bytes)) :
    around.visit path = .skipped (missingProject path) := by
  unfold visit
  rw [probed]
  cases found with
  | none => rfl
  | some entry =>
    cases entry with
    | file bytes => exact absurd rfl (noFile bytes)
    | directory => rfl
    | link target => rfl

theorem visit_projectKey (loads : around.visit path = .loaded project reports) :
    around.visit (around.projectKey path) = .loaded project reports := by
  obtain ⟨_, evaluates⟩ := visit_eq_loaded_iff.mp loads
  obtain ⟨_, ⟨bytes, found⟩, _⟩ := evaluate_eq_ok evaluates
  refine visit_eq_loaded_iff.mpr ⟨?_, (around.evaluate_projectKey path).trans evaluates⟩
  unfold isFile
  rw [found]

/-! ### Spellings of one path -/

/-- What loads under the key loads under this spelling too, or looking at it fails altogether. -/
def Faithful (around : Surroundings) (path : Path) : Prop :=
  ∀ project reports, around.visit (around.projectKey path) = .loaded project reports →
    around.visit path = .loaded project reports ∨ ∃ fault, around.visit path = .ended fault

theorem faithful_of_isKey (around : Surroundings) (key : path.IsKey) : around.Faithful path := by
  intro project reports loads
  rw [around.projectKey_of_isKey key] at loads
  exact .inl loads

theorem faithful_of_loaded (loads : around.visit path = .loaded project reports) :
    around.Faithful path := by
  intro other others also
  rw [visit_projectKey loads] at also
  exact .inl (also ▸ loads)

theorem visit_of_long (proper : path.Proper) (plain : '\x00' ∉ path.toString.toList)
    (long : pathLimit < (Text.Utf8.ofString path.toString).length) :
    around.visit path = .ended (.path (.refused .nameTooLong path.toString)) := by
  have refused : around.find true path.toString = .error (.refused .nameTooLong path.toString) := by
    unfold find seek
    rw [if_neg (by simpa using plain), if_neg (toString_ne_empty proper), if_pos long]
  unfold visit probe
  rw [refused]

/-- A normal relative path is as good as its key, but its text may be too long. -/
theorem faithful_of_normal (settled : around.Settled) (proper : path.Proper) (normal : path.Normal) :
    around.Faithful path := by
  by_cases absolute : path.isAbsolute = true
  · exact faithful_of_isKey around ⟨proper, absolute, normal⟩
  intro project reports loads
  obtain ⟨ups, names, parts, down, _⟩ := normal
  have keyed := projectKey_of_relative settled absolute parts down
  have evaluates := (visit_eq_loaded_iff.mp loads).2
  obtain ⟨_, ⟨bytes, found⟩, _⟩ := evaluate_eq_ok evaluates
  rw [projectKey_projectKey] at found
  rw [find_eq_file_iff around (isKey_projectKey settled proper).proper] at found
  obtain ⟨null, _, _, location, leads, standing⟩ := found
  rw [origin_projectKey, keyed] at leads
  rw [← follow_absolute settled, ← parts] at leads
  have named : path.parts ≠ [] := by
    intro empty
    rw [empty, follow] at leads
    cases leads
    rw [settled.standing _ List.prefix_rfl] at standing
    cases standing
  -- the names of the path stand in its key too, and ways up hold no such character
  have plain : '\x00' ∉ path.toString.toList := by
    rw [Path.mem_toString_iff (by decide), keyed] at null
    rw [Path.mem_toString_iff (by decide), parts]
    rintro ⟨part, member, inside⟩
    rcases List.mem_append.mp member with up | name
    · rw [(List.mem_replicate.mp up).2] at inside
      revert inside
      decide
    · exact null ⟨part, List.mem_append_right _ name, inside⟩
  by_cases short : (Text.Utf8.ofString path.toString).length ≤ pathLimit
  · left
    refine visit_eq_loaded_iff.mpr ⟨?_, (around.evaluate_projectKey path).symm.trans evaluates⟩
    have origin : around.origin path = around.directory := if_neg absolute
    have found := (find_eq_file_iff around proper).mpr
      ⟨plain, short, named, location, origin ▸ leads, standing⟩
    unfold isFile
    rw [found]
  · right
    exact ⟨_, visit_of_long proper plain (Nat.lt_of_not_le short)⟩

/-! ### How many projects can load -/

def spellings (names : List String) : Nat → List (List String)
  | 0 => [[]]
  | length + 1 => [] :: names.flatMap fun name => (spellings names length).map (name :: ·)

theorem mem_spellings {names parts : List String} (listed : ∀ part ∈ parts, part ∈ names)
    {length : Nat} (short : parts.length ≤ length) : parts ∈ spellings names length := by
  induction parts generalizing length with
  | nil => cases length <;> simp [spellings]
  | cons part rest ih =>
    cases length with
    | zero => simp at short
    | succ fewer =>
      have later := ih (fun other member => listed other (List.mem_cons_of_mem _ member))
        (Nat.le_of_succ_le_succ short)
      refine List.mem_cons_of_mem _ (List.mem_flatMap.mpr ⟨part, listed part List.mem_cons_self, ?_⟩)
      exact List.mem_map.mpr ⟨rest, later, rfl⟩

theorem length_spellings_le (names : List String) (length : Nat) :
    (spellings names length).length ≤ Nat.pow (names.length + 1) length := by
  induction length with
  | zero => exact Nat.le_refl 1
  | succ fewer ih =>
    have positive : 0 < Nat.pow (names.length + 1) fewer := Nat.pow_pos (Nat.succ_pos _)
    have each : (names.flatMap fun name => (spellings names fewer).map (name :: ·)).length =
        names.length * (spellings names fewer).length := by
      simp [List.length_flatMap, List.map_const']
    have more := Nat.mul_le_mul_left names.length ih
    change _ ≤ Nat.pow (names.length + 1) fewer * (names.length + 1)
    rw [spellings, List.length_cons, each, Nat.mul_succ, Nat.mul_comm _ names.length]
    omega

/-- All absolute paths of a first name and at most so many others. -/
def candidates (around : Surroundings) (length : Nat) : List Path :=
  [Anchor.root, .doubleRoot].flatMap fun anchor =>
    around.tree.names.flatMap fun name =>
      (spellings around.tree.names length).map fun more => ⟨anchor, name :: more⟩

theorem length_candidates_le (around : Surroundings) (length : Nat) :
    (around.candidates length).length ≤ Nat.pow (around.tree.entries.length + 1) (length + 2) := by
  have same : around.tree.names.length = around.tree.entries.length := List.length_map _
  have few := length_spellings_le around.tree.names length
  rw [same] at few
  have each (anchor : Anchor) : (around.tree.names.flatMap fun name =>
      (spellings around.tree.names length).map fun more => Path.mk anchor (name :: more)).length =
        around.tree.entries.length * (spellings around.tree.names length).length := by
    simp [List.length_flatMap, List.map_const', same]
  unfold candidates
  rw [List.flatMap_cons, List.flatMap_cons, List.flatMap_nil, List.append_nil, List.length_append, each,
    each]
  generalize around.tree.entries.length = entries at few
  generalize (spellings around.tree.names length).length = spelled at few
  have square : 2 * entries ≤ (entries + 1) * (entries + 1) := by
    simp only [Nat.add_mul, Nat.mul_add]
    omega
  calc entries * spelled + entries * spelled = spelled * (2 * entries) := by
        rw [Nat.mul_left_comm, Nat.two_mul, Nat.mul_comm spelled]
    _ ≤ Nat.pow (entries + 1) length * ((entries + 1) * (entries + 1)) := Nat.mul_le_mul few square
    _ = Nat.pow (entries + 1) (length + 2) := (Nat.mul_assoc _ _ _).symm

/-- A key whose parts are names of the tree is one of the candidates, if it is short enough. -/
theorem mem_candidates (key : path.IsKey) (named : path.parts ≠ [])
    (listed : ∀ part ∈ path.parts, part ∈ around.tree.names) {length : Nat}
    (short : path.parts.length ≤ length + 1) : path ∈ around.candidates length := by
  obtain ⟨anchor, parts⟩ := path
  cases parts with
  | nil => exact absurd rfl named
  | cons name more =>
    have anchored : anchor ∈ [Anchor.root, .doubleRoot] := by
      have absolute := key.absolute
      cases anchor <;> simp_all [Path.isAbsolute]
    refine List.mem_flatMap.mpr ⟨anchor, anchored, List.mem_flatMap.mpr ⟨name, listed name List.mem_cons_self, ?_⟩⟩
    refine List.mem_map.mpr ⟨more, mem_spellings ?_ (Nat.le_of_succ_le_succ short), rfl⟩
    exact fun part member => listed part (List.mem_cons_of_mem _ member)

theorem leads_of_loaded (settled : around.Settled) (proper : path.Proper)
    (loads : around.visit path = .loaded project reports) :
    (Text.Utf8.ofString (around.projectKey path).toString).length ≤ pathLimit ∧ (around.projectKey path).parts ≠ [] ∧
      (∀ part ∈ (around.projectKey path).parts, part ∈ around.tree.names) ∧
      ∃ location, around.tree.follow true linkLimit [] (around.projectKey path).parts = .ok location ∧
        around.tree.entry? location ≠ none := by
  have key := isKey_projectKey settled proper
  obtain ⟨_, ⟨bytes, found⟩, _⟩ := evaluate_eq_ok (visit_eq_loaded_iff.mp loads).2
  obtain ⟨_, short, named, location, leads, standing⟩ := (find_eq_file_iff around key.proper).mp found
  rw [origin_projectKey] at leads
  have stands : around.tree.entry? location ≠ none := by simp [standing]
  refine ⟨short, named, fun part member => ?_, location, leads, stands⟩
  obtain ⟨dot, dots⟩ := key.named part member
  exact mem_names_of_follow leads stands part member dot dots

/-- Every project that loads has one of the candidates for a key, and there are few enough of those. -/
theorem projectKey_mem_candidates (settled : around.Settled) (proper : path.Proper)
    (loads : around.visit path = .loaded project reports) :
    around.projectKey path ∈ around.candidates (pathLimit - 2) := by
  have key := isKey_projectKey settled proper
  obtain ⟨short, named, listed, _⟩ := leads_of_loaded settled proper loads
  have fewer := key.proper.length_parts key.absolute
  exact mem_candidates key named listed (by omega)

theorem length_candidates_le_loadBound (around : Surroundings) (start : List Path) :
    (around.candidates (pathLimit - 2)).length ≤ around.loadBound start := by
  have few := around.length_candidates_le (pathLimit - 2)
  have limit : pathLimit - 2 + 2 = pathLimit := by decide
  rw [limit] at few
  unfold loadBound
  exact Nat.le_add_left_of_le few

end UsingCensus.Surroundings
