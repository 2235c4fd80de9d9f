namespace UsingCensus

private theorem string_gt_of_not_lt {a b : String} (different : a ≠ b) (notLess : ¬ a < b) : b < a :=
  Decidable.byContradiction fun notGreater =>
    different (String.le_antisymm (String.not_lt.mp notGreater) (String.not_lt.mp notLess))

structure Tally where
  entries : List (String × Nat)
  ascending : (entries.map Prod.fst).Pairwise (· < ·)
  positive : ∀ entry ∈ entries, 0 < entry.2

namespace Tally

def empty : Tally := ⟨[], by simp, by simp⟩

def names (tally : Tally) : List String := tally.entries.map Prod.fst

def size (tally : Tally) : Nat := tally.entries.length

def count (tally : Tally) (name : String) : Nat := (tally.entries.lookup name).getD 0

def raise (name : String) (amount : Nat) : List (String × Nat) → List (String × Nat)
  | [] => [(name, amount)]
  | (other, count) :: rest =>
    if name = other then (other, count + amount) :: rest
    else if name < other then (name, amount) :: (other, count) :: rest
    else (other, count) :: raise name amount rest

theorem mem_names_raise {name other : String} {amount : Nat} {entries : List (String × Nat)} :
    other ∈ (raise name amount entries).map Prod.fst ↔ other = name ∨ other ∈ entries.map Prod.fst := by
  induction entries with
  | nil => simp [raise]
  | cons entry rest ih =>
    obtain ⟨first, count⟩ := entry
    by_cases same : name = first
    · subst same
      simp [raise]
    · by_cases less : name < first
      · simp [raise, same, less]
      · simp only [raise, same, less, if_false, List.map_cons, List.mem_cons, ih]
        constructor
        · rintro (found | found | found) <;> simp [found]
        · rintro (found | found | found) <;> simp [found]

theorem ascending_raise (name : String) (amount : Nat) {entries : List (String × Nat)}
    (ascending : (entries.map Prod.fst).Pairwise (· < ·)) :
    ((raise name amount entries).map Prod.fst).Pairwise (· < ·) := by
  induction entries with
  | nil => simp [raise]
  | cons entry rest ih =>
    obtain ⟨first, count⟩ := entry
    rw [List.map_cons, List.pairwise_cons] at ascending
    obtain ⟨below, later⟩ := ascending
    by_cases same : name = first
    · simp only [raise, same, if_true, List.map_cons, List.pairwise_cons]
      exact ⟨below, later⟩
    · by_cases less : name < first
      · simp only [raise, same, less, if_true, if_false, List.map_cons, List.pairwise_cons, List.mem_cons]
        exact ⟨fun other found => found.elim (fun eq => eq ▸ less)
          fun found => String.lt_trans less (below other found), below, later⟩
      · simp only [raise, same, less, if_false, List.map_cons, List.pairwise_cons]
        refine ⟨fun other found => ?_, ih later⟩
        rcases mem_names_raise.mp found with eq | found
        · exact eq ▸ string_gt_of_not_lt same less
        · exact below other found

theorem positive_raise {name : String} {amount : Nat} (counts : 0 < amount)
    {entries : List (String × Nat)} (positive : ∀ entry ∈ entries, 0 < entry.2) :
    ∀ entry ∈ raise name amount entries, 0 < entry.2 := by
  induction entries with
  | nil => simp [raise, counts]
  | cons entry rest ih =>
    obtain ⟨first, count⟩ := entry
    rw [List.forall_mem_cons] at positive
    obtain ⟨here, later⟩ := positive
    simp only at here
    unfold raise
    split
    · exact List.forall_mem_cons.mpr ⟨by simp only; omega, later⟩
    · split
      · exact List.forall_mem_cons.mpr ⟨counts, List.forall_mem_cons.mpr ⟨here, later⟩⟩
      · exact List.forall_mem_cons.mpr ⟨here, ih later⟩

def add (tally : Tally) (name : String) (amount : Nat) : Tally :=
  if counts : 0 < amount then
    ⟨raise name amount tally.entries, ascending_raise name amount tally.ascending,
      positive_raise counts tally.positive⟩
  else tally

def increment (tally : Tally) (name : String) : Tally := tally.add name 1

/-- Add counts of names. Counts that are not positive are passed over. -/
def merge (tally : Tally) (counts : List (String × Int)) : Tally :=
  counts.foldl (fun total (name, count) => total.add name count.toNat) tally

def addAll (tally : Tally) (names : List String) : Tally := names.foldl increment tally

def snapshot (tally : Tally) : List (String × Int) := tally.entries.map fun (name, count) => (name, count)

end Tally
end UsingCensus
