import UsingCensus.Tally

namespace UsingCensus.Tally

private theorem lookup_none_of_below {name : String} {entries : List (String × Nat)}
    (below : ∀ other ∈ entries.map Prod.fst, name < other) : entries.lookup name = none := by
  apply List.lookup_eq_none_iff.mpr
  intro entry member
  have less := below entry.1 (List.mem_map.mpr ⟨entry, member, rfl⟩)
  simpa using String.ne_of_lt less

private theorem lookup_cons_of_ne {name first : String} (different : name ≠ first) (count : Nat)
    (rest : List (String × Nat)) : ((first, count) :: rest).lookup name = rest.lookup name := by
  have test : (name == first) = false := beq_eq_false_iff_ne.mpr different
  simp only [List.lookup_cons, test]

private theorem lookup_raise {name other : String} {amount : Nat} {entries : List (String × Nat)}
    (ascending : (entries.map Prod.fst).Pairwise (· < ·)) :
    ((raise name amount entries).lookup other).getD 0 =
      (entries.lookup other).getD 0 + if other = name then amount else 0 := by
  induction entries with
  | nil =>
    by_cases asked : other = name
    · simp [raise, asked]
    · simp [raise, lookup_cons_of_ne asked, asked]
  | cons entry rest ih =>
    obtain ⟨first, count⟩ := entry
    rw [List.map_cons, List.pairwise_cons] at ascending
    obtain ⟨below, later⟩ := ascending
    by_cases same : name = first
    · subst same
      by_cases asked : other = name
      · simp [raise, asked]
      · simp [raise, lookup_cons_of_ne asked, asked]
    · by_cases less : name < first
      · have absent : ((first, count) :: rest).lookup name = none := by
          apply lookup_none_of_below
          intro later found
          rcases List.mem_cons.mp found with rfl | found
          · exact less
          · exact String.lt_trans less (below later found)
        by_cases asked : other = name
        · subst asked
          simp [raise, same, less, absent]
        · simp [raise, same, less, lookup_cons_of_ne asked, asked]
      · by_cases asked : other = first
        · subst asked
          simp [raise, same, less, Ne.symm same]
        · simpa only [raise, same, less, if_false, lookup_cons_of_ne asked] using ih later

theorem count_add (tally : Tally) (name other : String) (amount : Nat) :
    (tally.add name amount).count other = tally.count other + if other = name then amount else 0 := by
  unfold add
  split
  · exact lookup_raise tally.ascending
  · have zero : amount = 0 := by omega
    simp [zero]

@[simp] theorem count_empty (name : String) : empty.count name = 0 := rfl

theorem count_increment (tally : Tally) (name other : String) :
    (tally.increment name).count other = tally.count other + if other = name then 1 else 0 :=
  count_add tally name other 1

theorem count_addAll (tally : Tally) (names : List String) (name : String) :
    (tally.addAll names).count name = tally.count name + names.count name := by
  induction names generalizing tally with
  | nil => simp [addAll]
  | cons first rest ih =>
    have later := ih (tally.increment first)
    rw [count_increment] at later
    simp only [addAll, List.foldl_cons, List.count_cons] at later ⊢
    rw [later]
    by_cases same : name = first
    · simp [same]; omega
    · simp [same, Ne.symm same]

theorem nodup_names (tally : Tally) : (tally.entries.map Prod.fst).Nodup :=
  tally.ascending.imp fun less => String.ne_of_lt less

private theorem nodup_entries (tally : Tally) : tally.entries.Nodup :=
  (List.pairwise_map.mp tally.nodup_names).imp fun different same => different (congrArg Prod.fst same)

theorem mem_entries_iff (tally : Tally) (name : String) (count : Nat) :
    (name, count) ∈ tally.entries ↔ 0 < count ∧ tally.count name = count := by
  constructor
  · intro member
    obtain ⟨before, after, split⟩ := List.append_of_mem member
    have distinct := tally.nodup_names
    rw [split, List.map_append, List.map_cons, List.nodup_append] at distinct
    have found : tally.entries.lookup name = some count := by
      apply List.lookup_eq_some_iff.mpr
      refine ⟨before, after, split, ?_⟩
      intro entry earlier
      have differs := distinct.2.2 entry.1 (List.mem_map.mpr ⟨entry, earlier, rfl⟩) name (by simp)
      simpa using Ne.symm differs
    exact ⟨tally.positive _ member, by simp [Tally.count, found]⟩
  · rintro ⟨positive, counted⟩
    cases found : tally.entries.lookup name with
    | none => simp [Tally.count, found] at counted; omega
    | some stored =>
      have same : stored = count := by simpa [Tally.count, found] using counted
      subst same
      obtain ⟨before, after, split, _⟩ := List.lookup_eq_some_iff.mp found
      simp [split]

private theorem ext_entries {first second : Tally} (same : first.entries = second.entries) :
    first = second := by
  cases first
  cases second
  cases same
  rfl

/-- A tally is what it counts. -/
theorem ext_count {first second : Tally} (same : ∀ name, first.count name = second.count name) :
    first = second := by
  apply ext_entries
  have entries : first.entries.Perm second.entries := by
    apply (List.perm_ext_iff_of_nodup (nodup_entries first) (nodup_entries second)).mpr
    rintro ⟨name, count⟩
    rw [mem_entries_iff, mem_entries_iff, same name]
  have ordered (tally : Tally) : tally.entries.Pairwise fun a b => a.1 < b.1 :=
    List.pairwise_map.mp tally.ascending
  exact entries.eq_of_pairwise
    (fun a b _ _ less greater => absurd greater (String.lt_asymm less))
    (ordered first) (ordered second)

theorem addAll_append (tally : Tally) (first second : List String) :
    tally.addAll (first ++ second) = (tally.addAll first).addAll second :=
  List.foldl_append

theorem addAll_perm (tally : Tally) {first second : List String} (same : first.Perm second) :
    tally.addAll first = tally.addAll second := by
  apply ext_count
  intro name
  rw [count_addAll, count_addAll, same.count_eq]

theorem mem_snapshot_iff (tally : Tally) (name : String) (count : Int) :
    (name, count) ∈ tally.snapshot ↔ 0 < count ∧ (tally.count name : Int) = count := by
  constructor
  · intro member
    obtain ⟨⟨_, stored⟩, found, same⟩ := List.mem_map.mp member
    cases same
    obtain ⟨positive, counted⟩ := (tally.mem_entries_iff name stored).mp found
    exact ⟨by omega, by rw [counted]⟩
  · rintro ⟨positive, counted⟩
    have found : (name, tally.count name) ∈ tally.entries :=
      (tally.mem_entries_iff name _).mpr ⟨by omega, rfl⟩
    exact List.mem_map.mpr ⟨_, found, Prod.ext rfl counted⟩

theorem nodup_snapshot_names (tally : Tally) : (tally.snapshot.map Prod.fst).Nodup := by
  have names : tally.snapshot.map Prod.fst = tally.entries.map Prod.fst := by
    simp [snapshot, Function.comp_def]
  exact names ▸ tally.nodup_names

end UsingCensus.Tally
