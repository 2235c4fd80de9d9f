import UsingCensus.Ranking

namespace UsingCensus

namespace Row

/-- A row stands strictly before another: it counts more, or as much with a smaller name. -/
def Before (a b : Row) : Prop := b.count < a.count ∨ (a.count = b.count ∧ a.name < b.name)

theorem precedes_iff {a b : Row} :
    a.precedes b = true ↔ b.count < a.count ∨ (a.count = b.count ∧ a.name ≤ b.name) := by
  simp [precedes]

theorem precedes_trans (a b c : Row) (first : a.precedes b = true) (second : b.precedes c = true) :
    a.precedes c = true := by
  rw [precedes_iff] at *
  rcases first with more | ⟨same, less⟩
  · rcases second with again | ⟨equal, _⟩
    · exact .inl (by omega)
    · exact .inl (by omega)
  · rcases second with again | ⟨equal, later⟩
    · exact .inl (by omega)
    · exact .inr ⟨by omega, String.le_trans less later⟩

theorem precedes_total (a b : Row) : (a.precedes b || b.precedes a) = true := by
  rw [Bool.or_eq_true, precedes_iff, precedes_iff]
  rcases Int.lt_trichotomy a.count b.count with less | same | more
  · exact .inr (.inl less)
  · rcases String.le_total a.name b.name with first | second
    · exact .inl (.inr ⟨same, first⟩)
    · exact .inr (.inr ⟨same.symm, second⟩)
  · exact .inl (.inl more)

theorem before_of_precedes {a b : Row} (ordered : a.precedes b = true) (different : a.name ≠ b.name) :
    a.Before b := by
  rcases precedes_iff.mp ordered with more | ⟨same, notGreater⟩
  · exact .inl more
  · refine .inr ⟨same, ?_⟩
    exact String.not_le.mp fun greater => different (String.le_antisymm notGreater greater)

end Row

theorem mem_ranking_iff {entries : List (String × Int)} {row : Row} :
    row ∈ ranking entries ↔ (row.name, row.count) ∈ entries := by
  rw [ranking, List.mem_mergeSort, List.mem_map]
  constructor
  · rintro ⟨⟨name, count⟩, member, rfl⟩
    exact member
  · intro member
    exact ⟨_, member, rfl⟩

theorem nodup_ranking_names {entries : List (String × Int)} (distinct : (entries.map Prod.fst).Nodup) :
    ((ranking entries).map Row.name).Nodup := by
  have names : ((ranking entries).map Row.name).Perm (entries.map Prod.fst) := by
    have sorted := (List.mergeSort_perm (entries.map fun entry => (⟨entry.1, entry.2⟩ : Row))
      Row.precedes).map Row.name
    simpa [ranking, Function.comp_def] using sorted
  exact names.nodup_iff.mpr distinct

theorem pairwise_ranking {entries : List (String × Int)} (distinct : (entries.map Prod.fst).Nodup) :
    (ranking entries).Pairwise Row.Before := by
  have ordered : (ranking entries).Pairwise fun a b => a.precedes b = true :=
    List.pairwise_mergeSort Row.precedes_trans Row.precedes_total _
  have different := List.pairwise_map.mp (nodup_ranking_names distinct)
  exact (ordered.and different).imp fun both => Row.before_of_precedes both.1 both.2

theorem rank_eq_ok_iff {limit : Option Int} {entries : List (String × Int)} {rows : List Row} :
    rank limit entries = .ok rows ↔
      (∀ size, limit = some size → 0 ≤ size) ∧
        rows = (match limit with
          | none => ranking entries
          | some size => (ranking entries).take size.toNat) := by
  cases limit with
  | none => simp [rank, eq_comm]
  | some size =>
    by_cases negative : size < 0
    · simp only [rank, negative, if_true, reduceCtorEq, Option.some.injEq, forall_eq', false_iff]
      intro both
      omega
    · simp only [rank, negative, if_false, Except.ok.injEq, Option.some.injEq, forall_eq']
      exact ⟨fun same => ⟨by omega, same.symm⟩, fun both => both.2.symm⟩

end UsingCensus
