import Mathlib.Algebra.Order.BigOperators.Group.List
import Mathlib.Algebra.Order.Group.Nat
import UsingCensus.Proofs.YamlValues

/-!
Constructions come to an end. Main statements: merging fails only for a key that asks for what is no mapping, and a
document that has been constructed leaves no collection waiting; so neither is cut short by the bound on its steps.
-/
namespace UsingCensus
namespace Yaml

namespace Graph

variable {graph before after last : Graph} {id steps : Nat}

/-! ### Merge keys -/

/-- A merge key asks for what is neither a mapping nor a list of mappings. -/
def AsksAmiss (graph : Graph) : Prop :=
  ∃ id, ∃ pair ∈ graph.pairsOf id, graph.isMerge pair = true ∧ graph.sources? pair.2 = none

def merges (graph : Graph) (id : Nat) : List (Nat × Nat) := (graph.pairsOf id).filter graph.isMerge

/-- No merge key comes in. -/
structure Sheds (before after : Graph) : Prop extends Evolves before after where
  merges : ∀ id, (after.merges id).Sublist (before.merges id)

theorem Evolves.isMerge_eq (evolves : before.Evolves after) : after.isMerge = before.isMerge := by
  funext pair
  unfold isMerge
  rcases evolves.tag pair.1 with same | ⟨was, is⟩
  · rw [same]
  · rw [was, is]
    rfl

theorem Evolves.sources?_eq (evolves : before.Evolves after) (id : Nat) : after.sources? id = before.sources? id := by
  have same : after.isMapping = before.isMapping := funext evolves.isMapping
  unfold sources?
  rcases evolves.content id with content | ⟨was, is⟩
  · rw [content, same]
  · obtain ⟨_, old⟩ := isMapping_iff.mp was
    obtain ⟨_, new⟩ := isMapping_iff.mp is
    rw [old, new]

namespace Sheds

theorem refl (graph : Graph) : graph.Sheds graph := ⟨.refl graph, fun _ => .refl _⟩

theorem trans (one : before.Sheds after) (two : after.Sheds last) : before.Sheds last :=
  ⟨one.toEvolves.trans two.toEvolves, fun id => (two.merges id).trans (one.merges id)⟩

theorem mergeCount_le (sheds : before.Sheds after) : after.mergeCount ≤ before.mergeCount := by
  unfold mergeCount
  rw [List.length_flatMap, List.length_flatMap, sheds.size]
  exact List.sum_le_sum fun id _ => (sheds.merges id).length_le

theorem mergeCount_lt (sheds : before.Sheds after) (inside : id < before.nodes.length)
    (fewer : (after.merges id).length < (before.merges id).length) : after.mergeCount < before.mergeCount := by
  unfold mergeCount
  rw [List.length_flatMap, List.length_flatMap, sheds.size]
  exact List.sum_lt_sum _ _ (fun id _ => (sheds.merges id).length_le) ⟨id, List.mem_range.mpr inside, fewer⟩

theorem asksAmiss (sheds : before.Sheds after) (asks : after.AsksAmiss) : before.AsksAmiss := by
  obtain ⟨id, pair, member, merge, amiss⟩ := asks
  have old := (sheds.merges id).subset (List.mem_filter.mpr ⟨member, merge⟩)
  obtain ⟨was, merged⟩ := List.mem_filter.mp old
  exact ⟨id, pair, was, merged, (sheds.sources?_eq _).symm.trans amiss⟩

end Sheds

def Plain (graph : Graph) (pairs : List (Nat × Nat)) : Prop := ∀ pair ∈ pairs, graph.isMerge pair = false

theorem plain_nil (graph : Graph) : graph.Plain [] := fun _ member => nomatch member

theorem Plain.evolve {pairs : List (Nat × Nat)} (plain : before.Plain pairs) (evolves : before.Evolves after) :
    after.Plain pairs := by
  unfold Plain
  rw [evolves.isMerge_eq]
  exact plain

theorem Plain.append {front behind : List (Nat × Nat)} (plain : graph.Plain front) (also : graph.Plain behind) :
    graph.Plain (front ++ behind) :=
  fun pair member => (List.mem_append.mp member).elim (plain pair) (also pair)

/-! ### Merging -/

theorem sheds_setPairs {pairs : List (Nat × Nat)} (evolves : graph.Evolves (graph.setPairs id pairs))
    (fewer : (pairs.filter graph.isMerge).Sublist (graph.merges id)) : graph.Sheds (graph.setPairs id pairs) := by
  refine ⟨evolves, fun other => ?_⟩
  rw [merges, evolves.isMerge_eq, pairsOf_setPairs]
  split
  · rename_i here
    exact here.1 ▸ fewer
  · exact .refl _

theorem sheds_eraseP {pair : Nat × Nat} (found : (graph.pairsOf id).find? graph.isMerge = some pair) :
    graph.Sheds (graph.setPairs id ((graph.pairsOf id).eraseP graph.isMerge)) ∧
      (graph.setPairs id ((graph.pairsOf id).eraseP graph.isMerge)).mergeCount < graph.mergeCount := by
  have member := List.mem_of_find?_eq_some found
  have evolves : graph.Evolves (graph.setPairs id ((graph.pairsOf id).eraseP graph.isMerge)) :=
    evolves_setPairs fun pair member _ => List.mem_of_mem_eraseP member
  have sheds := sheds_setPairs evolves (List.eraseP_sublist.filter _)
  have isMapping : graph.isMapping id = true := by
    unfold pairsOf at member
    unfold Graph.isMapping
    split at member
    · rfl
    · cases member
  refine ⟨sheds, sheds.mergeCount_lt (lt_length_of_isMapping isMapping) ?_⟩
  obtain ⟨first, front, behind, none, merge, split, erased⟩ :=
    List.exists_of_eraseP member (List.find?_some found)
  rw [merges, merges, evolves.isMerge_eq, pairsOf_setPairs, if_pos ⟨rfl, isMapping⟩, erased, split]
  simp [merge]

/-- A mapping is flattened, or a merge key asks for what is no mapping. -/
def Flattens (flatten : Graph → Nat → Option Graph) (graph : Graph) (id : Nat) : Prop :=
  (∃ flat, flatten graph id = some flat ∧ graph.Sheds flat ∧ flat.Named (flat.pairsOf id) ∧
    flat.Plain (flat.pairsOf id)) ∨ graph.AsksAmiss

theorem bring_cases {flatten : Graph → Nat → Option Graph} {sources : List Nat} {start : Graph × List (Nat × Nat)}
    (flattens : ∀ before id, before.mergeCount < steps → Flattens flatten before id)
    (enough : start.1.mergeCount < steps) (named : start.1.Named start.2) (plain : start.1.Plain start.2) :
    (∃ brought, sources.foldlM (bring flatten) start = some brought ∧ start.1.Sheds brought.1 ∧
      brought.1.Named brought.2 ∧ brought.1.Plain brought.2) ∨ start.1.AsksAmiss := by
  induction sources generalizing start with
  | nil => exact .inl ⟨start, rfl, .refl _, named, plain⟩
  | cons source rest ih =>
    rcases flattens start.1 source enough with ⟨flat, flattened, sheds, names, plains⟩ | amiss
    · rcases @ih (flat, flat.pairsOf source ++ start.2) (Nat.lt_of_le_of_lt sheds.mergeCount_le enough)
        (names.append (named.evolve sheds.toEvolves)) (plains.append (plain.evolve sheds.toEvolves)) with
        ⟨brought, brings, more, both⟩ | amiss
      · refine .inl ⟨brought, ?_, sheds.trans more, both⟩
        rw [List.foldlM_cons, bring, flattened]
        exact brings
      · exact .inr (sheds.asksAmiss amiss)
    · exact .inr amiss

/-- A mapping without merge keys is flattened at once. -/
theorem flattens_of_find? {merged : List (Nat × Nat)} (named : graph.Named merged) (plain : graph.Plain merged)
    (none : (graph.pairsOf id).find? graph.isMerge = none) : Flattens (flatten (steps + 1) merged) graph id := by
  have all : graph.Plain (graph.pairsOf id) := fun pair member =>
    Bool.eq_false_iff.mpr (List.find?_eq_none.mp none pair member)
  have flattened : graph.flatten (steps + 1) merged id =
      some ((graph.pairsOf id).foldl nameKey (graph.setPairs id (merged ++ graph.pairsOf id))) := by
    rw [flatten, none]
  obtain ⟨evolves, names⟩ := evolves_flatten named flattened
  obtain ⟨_, _, same⟩ := (graph.setPairs id (merged ++ graph.pairsOf id)).evolves_foldl_nameKey (graph.pairsOf id)
  have whole : graph.Plain (merged ++ graph.pairsOf id) := plain.append all
  refine .inl ⟨_, flattened, ⟨evolves, fun other => ?_⟩, names, ?_⟩
  · rw [merges, evolves.isMerge_eq, same, pairsOf_setPairs]
    split
    · rw [List.filter_eq_nil_iff.mpr fun pair member => Bool.eq_false_iff.mp (whole pair member)]
      exact List.nil_sublist _
    · exact .refl _
  · rw [same, pairsOf_setPairs]
    split
    · exact whole.evolve evolves
    · exact all.evolve evolves

theorem flatten_cases {merged : List (Nat × Nat)} (enough : graph.mergeCount < steps) (named : graph.Named merged)
    (plain : graph.Plain merged) : Flattens (flatten steps merged) graph id := by
  induction steps generalizing merged graph id with
  | zero => exact absurd enough (Nat.not_lt_zero _)
  | succ steps ih =>
    cases found : (graph.pairsOf id).find? graph.isMerge with
    | none => exact flattens_of_find? named plain found
    | some pair =>
      obtain ⟨sheds, fewer⟩ := sheds_eraseP found
      cases asked : graph.sources? pair.2 with
      | none => exact .inr ⟨id, pair, List.mem_of_find?_eq_some found, List.find?_some found, asked⟩
      | some sources =>
        generalize less : graph.setPairs id ((graph.pairsOf id).eraseP graph.isMerge) = rest at sheds fewer
        have within : rest.mergeCount < steps := by omega
        rcases @bring_cases steps (flatten steps []) sources (rest, [])
          (fun _ _ few => ih few (named_nil _) (plain_nil _)) within (named_nil _) (plain_nil _) with
          ⟨brought, brings, more, names, plains⟩ | amiss
        · have evolves := (sheds.trans more).toEvolves
          have last : graph.flatten (steps + 1) merged id = flatten steps (merged ++ brought.2) brought.1 id := by
            rw [flatten, found, less]
            change (graph.sources? pair.2).bind _ = _
            rw [asked]
            exact congrArg (Option.bind · _) brings
          rcases @ih brought.1 id (merged ++ brought.2) (Nat.lt_of_le_of_lt more.mergeCount_le within)
            ((named.evolve evolves).append names) ((plain.evolve evolves).append plains) with
            ⟨flat, flattened, final, own⟩ | amiss
          · exact .inl ⟨flat, last.trans flattened, (sheds.trans more).trans final, own⟩
          · exact .inr ((sheds.trans more).asksAmiss amiss)
        · exact .inr (sheds.asksAmiss amiss)

/-- Merging fails only for a key that asks for what is no mapping. -/
theorem asksAmiss_of_flatten (unmerged : graph.flatten (graph.mergeCount + 1) [] id = none) : graph.AsksAmiss := by
  have flattens : Flattens (flatten (graph.mergeCount + 1) []) graph id :=
    flatten_cases (Nat.lt_succ_self _) graph.named_nil graph.plain_nil
  rcases flattens with ⟨_, flattened, _⟩ | amiss
  · cases unmerged.symm.trans flattened
  · exact amiss

end Graph

/-! ### Collections that wait -/

namespace Construction

variable {construction : Construction} {size filled : Nat}

/-- A number of collections have been filled, and each waits no more than once. -/
structure Orderly (size filled : Nat) (construction : Construction) : Prop where
  nodes : construction.graph.nodes.length = size
  inside : ∀ id ∈ construction.found, id < size
  once : construction.found.Nodup
  count : construction.found.length = filled + construction.waiting.length

theorem lasts_orderly (size filled : Nat) : Lasts (Orderly size filled) fun _ => True where
  malformed := trivial
  make construction orderly id := by
    unfold make
    refine .ite (fun collection => .ite (fun _ => orderly) fun new => ?_) fun _ => .ite (fun _ => orderly) fun _ => ?_
    · refine ⟨orderly.nodes, List.forall_mem_cons.mpr ⟨?_, orderly.inside⟩, List.nodup_cons.mpr ⟨new, orderly.once⟩,
        ?_⟩
      · by_contra outside
        rw [isCollection, Graph.tagOf, List.getElem?_eq_none (by rw [orderly.nodes]; omega)] at collection
        cases collection
      · rw [List.length_cons, List.length_append, orderly.count]
        rfl
    · have atoms : Answers (fun _ => True) (fun _ => True) (construction.graph.atom id) := by
        cases construction.graph.atom id <;> trivial
      exact atoms.map fun _ _ => ⟨orderly.nodes, orderly.inside, orderly.once, orderly.count⟩
  merge _ _ orderly evolves := ⟨evolves.size.trans orderly.nodes, orderly.inside, orderly.once, orderly.count⟩

/-- There are no more collections than nodes, so as many steps leave none waiting. -/
theorem nothing_waits (orderly : Orderly size filled construction) {count : Nat} (enough : size ≤ filled + count) :
    Answers (fun last => last.waiting = []) (fun _ => True) (fillAll count construction) := by
  induction count generalizing construction filled with
  | zero =>
    have few := orderly.once.length_le_of_subset fun id member => List.mem_range.mpr (orderly.inside id member)
    rw [List.length_range, orderly.count] at few
    exact List.eq_nil_of_length_eq_zero (by omega)
  | succ count ih =>
    unfold fillAll
    split
    · assumption
    · rename_i id waiting stands
      have next : Orderly size (filled + 1) { construction with waiting := waiting } := by
        refine ⟨orderly.nodes, orderly.inside, orderly.once, ?_⟩
        have count := orderly.count
        rw [stands, List.length_cons] at count
        change construction.found.length = filled + 1 + waiting.length
        omega
      cases filling : { construction with waiting := waiting }.fill id with
      | error fault => trivial
      | ok more => exact ih (((lasts_orderly size _).fill next id).value_of_eq filling) (by omega)

theorem waiting_ofGraph {graph : Graph} (constructed : ofGraph graph = .ok construction) :
    construction.waiting = [] := by
  have fresh : Orderly graph.nodes.length 0 (start graph) := ⟨rfl, nofun, .nil, rfl⟩
  unfold ofGraph at constructed
  cases made : (start graph).make graph.root with
  | error fault =>
    rw [made] at constructed
    cases constructed
  | ok first =>
    rw [made] at constructed
    have orderly := ((lasts_orderly graph.nodes.length 0).make _ fresh graph.root).value_of_eq made
    exact (nothing_waits orderly (by omega)).value_of_eq constructed

end Construction
end Yaml
end UsingCensus
