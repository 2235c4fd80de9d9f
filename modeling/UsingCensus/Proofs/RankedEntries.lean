import Mathlib.Data.List.Perm.Basic
import UsingCensus.Proofs.Ranked

/-!
Rankings of entries. Main statement: the ranking of entries with different names is the only list of rows
that holds these entries, each strictly before the next, and a limit keeps its first rows.
-/
namespace UsingCensus

namespace Text

/-- The code points of a text. -/
def codePoints (text : String) : List Nat := text.toList.map Char.toNat

theorem map_toNat_lt_iff {first second : List Char} :
    first.map Char.toNat < second.map Char.toNat ↔ first < second := by
  induction first generalizing second with
  | nil => cases second <;> simp
  | cons c first ih =>
    cases second with
    | nil => simp
    | cons d second =>
      rw [List.map_cons, List.map_cons, List.cons_lt_cons_iff, List.cons_lt_cons_iff, ih, Char.toNat_inj]
      rfl

theorem codePoints_lt_iff {first second : String} : codePoints first < codePoints second ↔ first < second :=
  map_toNat_lt_iff

end Text

namespace Row

/-- The entry that a row shows. -/
def entry (row : Row) : String × Int := (row.name, row.count)

instance (first second : Row) : Decidable (first.Before second) := inferInstanceAs (Decidable (_ ∨ _))

theorem before_iff {first second : Row} : first.Before second ↔
    second.count < first.count ∨
      (first.count = second.count ∧ Text.codePoints first.name < Text.codePoints second.name) := by
  rw [Text.codePoints_lt_iff]
  rfl

theorem entry_injective : Function.Injective entry := by
  rintro ⟨_, _⟩ ⟨_, _⟩ same
  cases same
  rfl

theorem Before.asymm {first second : Row} (before : first.Before second) : ¬ second.Before first := by
  rintro (more | ⟨same, greater⟩)
  · rcases before with less | ⟨same, _⟩ <;> omega
  · rcases before with less | ⟨_, less⟩
    · omega
    · exact String.lt_asymm less greater

end Row

/-- The rows show the entries, each row strictly before all that follow it. -/
structure Ranks (rows : List Row) (entries : List (String × Int)) : Prop where
  shown : (rows.map Row.entry).Perm entries
  ordered : rows.Pairwise Row.Before

namespace Ranks

variable {rows others : List Row} {entries reordered : List (String × Int)}

theorem of_perm (ranks : Ranks rows entries) (same : entries.Perm reordered) : Ranks rows reordered :=
  ⟨ranks.shown.trans same, ranks.ordered⟩

/-- Entries are ranked in one way only. -/
theorem unique (ranks : Ranks rows entries) (again : Ranks others entries) : rows = others := by
  have shown : (rows.map Row.entry).Perm (others.map Row.entry) := ranks.shown.trans again.shown.symm
  have same : rows.Perm others := (List.map_perm_map_iff Row.entry_injective).mp shown
  exact same.eq_of_pairwise (fun _ _ _ _ before after => absurd after before.asymm) ranks.ordered again.ordered

theorem mem_iff (ranks : Ranks rows entries) {row : Row} : row ∈ rows ↔ row.entry ∈ entries := by
  rw [← ranks.shown.mem_iff, List.mem_map_of_injective Row.entry_injective]

theorem length_eq (ranks : Ranks rows entries) : rows.length = entries.length := by
  rw [← ranks.shown.length_eq, List.length_map]

theorem before_of_left_out (ranks : Ranks rows entries) {size : Nat} {kept row : Row}
    (first : kept ∈ rows.take size) (shown : row.entry ∈ entries) (leftOut : row ∉ rows.take size) :
    kept.Before row := by
  have member : row ∈ rows.take size ++ rows.drop size := by
    rw [List.take_append_drop]
    exact ranks.mem_iff.mpr shown
  have ordered : (rows.take size ++ rows.drop size).Pairwise Row.Before := by
    rw [List.take_append_drop]
    exact ranks.ordered
  have later : row ∈ rows.drop size := (List.mem_append.mp member).resolve_left leftOut
  exact (List.pairwise_append.mp ordered).2.2 kept first row later

end Ranks

variable {entries reordered : List (String × Int)}

theorem ranks_ranking (distinct : (entries.map Prod.fst).Nodup) : Ranks (ranking entries) entries where
  shown := by
    have sorted := (List.mergeSort_perm (entries.map fun entry => (⟨entry.1, entry.2⟩ : Row))
      Row.precedes).map Row.entry
    rwa [List.map_map, show Row.entry ∘ _ = (id : String × Int → _) from rfl, List.map_id] at sorted
  ordered := pairwise_ranking distinct

theorem ranking_perm (distinct : (entries.map Prod.fst).Nodup) (same : reordered.Perm entries) :
    ranking reordered = ranking entries := by
  have others : (reordered.map Prod.fst).Nodup := (same.map Prod.fst).nodup_iff.mpr distinct
  exact ((ranks_ranking others).of_perm same).unique (ranks_ranking distinct)

theorem rank_size (entries : List (String × Int)) (size : Nat) :
    rank (some size) entries = .ok ((ranking entries).take size) := by
  have allowed : ¬ (size : Int) < 0 := by omega
  rw [rank, if_neg allowed, Int.toNat_natCast]

theorem rank_eq_error_iff {limit : Option Int} :
    rank limit entries = .error .negativeLimit ↔ ∃ size, limit = some size ∧ size < 0 := by
  cases limit with
  | none => simp [rank]
  | some size => by_cases negative : size < 0 <;> simp [rank, negative]

/-- Entries with different names are ranked in one way, whatever their order: by falling counts, and by the
code points of their names where the counts are the same. A limit keeps the first rows, before which no row
that it leaves out could stand, and it is refused just if it is negative. -/
theorem rank_orders (entries : List (String × Int)) (distinct : (entries.map Prod.fst).Nodup) :
    (∀ first second : Row, first.Before second ↔
      second.count < first.count ∨
        (first.count = second.count ∧ Text.codePoints first.name < Text.codePoints second.name)) ∧
    (∀ limit, rank limit entries = .error .negativeLimit ↔ ∃ size, limit = some size ∧ size < 0) ∧
    ∃ rows, rank none entries = .ok rows ∧ (∀ others, Ranks others entries ↔ others = rows) ∧
      (∀ reordered limit, reordered.Perm entries → rank limit reordered = rank limit entries) ∧
      ∀ size : Nat, ∃ kept, rank (some size) entries = .ok kept ∧ kept = rows.take (min size entries.length) ∧
        kept.length = min size entries.length ∧
        ∀ first ∈ kept, ∀ row : Row, row.entry ∈ entries → row ∉ kept → first.Before row := by
  have ranks := ranks_ranking distinct
  refine ⟨fun _ _ => Row.before_iff, fun _ => rank_eq_error_iff, ranking entries, rfl, ?_, ?_, ?_⟩
  · intro others
    constructor
    · exact fun again => again.unique ranks
    · rintro rfl
      exact ranks
  · intro reordered limit same
    unfold rank
    rw [ranking_perm distinct same]
  · intro size
    have cut : (ranking entries).take size = (ranking entries).take (min size entries.length) := by
      rw [← ranks.length_eq]
      exact List.take_eq_take_min
    refine ⟨_, rank_size entries size, cut, ?_, ?_⟩
    · rw [List.length_take, ranks.length_eq]
    · intro first kept row shown leftOut
      exact ranks.before_of_left_out kept shown leftOut

/-- Names that count alike, with a capital letter, letters beyond ASCII, and none at all. -/
def rankedSample : List (String × Int) := [("é", 2), ("b", 2), ("Zeta", 2), ("a", 7), ("", -1)]

/-- Its only ranking, of which a limit keeps the first rows also where the entries come in another order. -/
theorem rank_orders_sample :
    (rankedSample.map Prod.fst).Nodup ∧
      rank none rankedSample = .ok [⟨"a", 7⟩, ⟨"Zeta", 2⟩, ⟨"b", 2⟩, ⟨"é", 2⟩, ⟨"", -1⟩] ∧
      rank (some 3) rankedSample.reverse = .ok [⟨"a", 7⟩, ⟨"Zeta", 2⟩, ⟨"b", 2⟩] := by
  have distinct : (rankedSample.map Prod.fst).Nodup := by decide
  have ranks : Ranks [⟨"a", 7⟩, ⟨"Zeta", 2⟩, ⟨"b", 2⟩, ⟨"é", 2⟩, ⟨"", -1⟩] rankedSample :=
    ⟨by decide, by decide⟩
  obtain ⟨_, _, rows, all, only, unordered, limited⟩ := rank_orders rankedSample distinct
  obtain rfl := (only _).mp ranks
  obtain ⟨kept, first, rfl, _⟩ := limited 3
  exact ⟨distinct, all, (unordered _ _ (List.reverse_perm _)).trans first⟩

end UsingCensus
