import Mathlib.Data.List.Nodup
import Mathlib.Logic.Relation
import UsingCensus.Proofs.YamlFaults
import UsingCensus.Yaml.Construction

namespace UsingCensus
namespace Yaml

/-! ### Atoms -/

/-- Tags with texts that have no value. -/
def Tag.isChoosy : Tag → Bool
  | boolean => true
  | integer => true
  | float => true
  | timestamp => true
  | _ => false

theorem Atom.isChoosy_of_ofText {tag : Tag} {text : String} {fault : Fault}
    (failed : Atom.ofText tag text = .error fault) : fault = .malformed ∨ tag.isChoosy = true := by
  cases tag with
  | boolean => exact .inr rfl
  | integer => exact .inr rfl
  | float => exact .inr rfl
  | timestamp => exact .inr rfl
  | null => cases failed
  | text => cases failed
  | binary =>
    dsimp only [ofText] at failed
    split at failed
    · cases failed
    · cases failed
      exact .inl rfl
  | _ =>
    cases failed
    exact .inl rfl

namespace Graph

variable {graph before after : Graph} {id : Nat} {text : String} {fault : Fault}

/-- A mapping stands for what it has under the key `=`. -/
def StandsFor (graph : Graph) (id value : Nat) : Prop :=
  ∃ key, (key, value) ∈ graph.pairsOf id ∧ graph.tagOf key = .value

/-- The text of a node, or of what it stands for. -/
def Spells (graph : Graph) (id : Nat) (text : String) : Prop :=
  ∃ last, Relation.ReflTransGen graph.StandsFor id last ∧ graph.contentOf last = .scalar text

/-- Why a document that is formed well has no value. -/
inductive Senseless (graph : Graph) : Fault → Prop where
  | text {id : Nat} {text : String} {fault : Fault} (choosy : (graph.tagOf id).isChoosy = true)
      (spells : graph.Spells id text) (valueless : Atom.ofText (graph.tagOf id) text = .error fault) :
      Senseless graph fault
  | timestamp {id : Nat} (tagged : graph.tagOf id = .timestamp) (isMapping : graph.isMapping id = true) :
      Senseless graph .notAText
  | endless {id : Nat} (round : Relation.TransGen graph.StandsFor id id) : Senseless graph .endless

def ValueFault (graph : Graph) (fault : Fault) : Prop := fault = .malformed ∨ graph.Senseless fault

theorem isMapping_iff : graph.isMapping id = true ↔ ∃ pairs, graph.contentOf id = .mapping pairs := by
  unfold isMapping
  cases graph.contentOf id <;> simp

theorem pairsOf_eq {pairs : List (Nat × Nat)} (content : graph.contentOf id = .mapping pairs) :
    graph.pairsOf id = pairs := by
  rw [pairsOf, content]

theorem lt_length_of_isMapping (isMapping : graph.isMapping id = true) : id < graph.nodes.length := by
  obtain ⟨pairs, content⟩ := isMapping_iff.mp isMapping
  by_contra outside
  rw [contentOf, List.getElem?_eq_none (Nat.le_of_not_lt outside)] at content
  cases content

theorem standsFor_of_find? {pairs : List (Nat × Nat)} {pair : Nat × Nat}
    (content : graph.contentOf id = .mapping pairs)
    (found : pairs.find? (fun pair => graph.tagOf pair.1 = .value) = some pair) : graph.StandsFor id pair.2 := by
  have tagged := List.find?_some found
  refine ⟨pair.1, ?_, of_decide_eq_true tagged⟩
  rw [pairsOf_eq content]
  exact List.mem_of_find?_eq_some found

/-- A text that is not found in so many steps leads through as many mappings, each to those behind it. -/
theorem exists_walk {steps : Nat} (endless : graph.textOf steps id = .error .endless) :
    ∃ walk : List Nat, walk.length = steps ∧ walk.Pairwise (Relation.TransGen graph.StandsFor) ∧
      ∀ place ∈ walk, place < graph.nodes.length ∧ Relation.ReflTransGen graph.StandsFor id place := by
  induction steps generalizing id with
  | zero => exact ⟨[], rfl, .nil, nofun⟩
  | succ steps ih =>
    rw [textOf] at endless
    split at endless
    · cases endless
    · cases endless
    rename_i pairs content
    split at endless
    · rename_i pair found
      have stands := standsFor_of_find? content found
      obtain ⟨walk, length, ordered, inside⟩ := ih endless
      refine ⟨id :: walk, congrArg (· + 1) length, List.pairwise_cons.mpr ⟨fun place member => ?_, ordered⟩, ?_⟩
      · exact .head' stands (inside place member).2
      · refine List.forall_mem_cons.mpr ⟨⟨lt_length_of_isMapping (isMapping_iff.mpr ⟨_, content⟩), .refl⟩, ?_⟩
        exact fun place member => ⟨(inside place member).1, .head stands (inside place member).2⟩
    · cases endless

/-- More mappings than there are nodes go round. -/
theorem exists_round {walk : List Nat} (ordered : walk.Pairwise (Relation.TransGen graph.StandsFor))
    (inside : ∀ place ∈ walk, place < graph.nodes.length) (long : graph.nodes.length < walk.length) :
    ∃ id, Relation.TransGen graph.StandsFor id id := by
  by_contra none
  have apart : walk.Nodup := by
    refine ordered.imp ?_
    rintro first second leads rfl
    exact none ⟨_, leads⟩
  have few := apart.length_le_of_subset fun place member => List.mem_range.mpr (inside place member)
  rw [List.length_range] at few
  omega

theorem answers_textOf (graph : Graph) (steps id : Nat) :
    Answers (graph.Spells id) (fun fault => fault = .malformed ∨ fault = .endless) (graph.textOf steps id) := by
  induction steps generalizing id with
  | zero => exact .inr rfl
  | succ steps ih =>
    rw [textOf]
    split
    · rename_i content
      exact ⟨id, .refl, content⟩
    · exact .inl rfl
    rename_i pairs content
    split
    · rename_i found
      refine (ih _).mono (fun text ⟨last, leads, spells⟩ => ?_) fun _ bad => bad
      exact ⟨last, .head (standsFor_of_find? content found) leads, spells⟩
    · exact .inl rfl

theorem answers_atom (graph : Graph) (id : Nat) : Answers (fun _ => True) graph.ValueFault (graph.atom id) := by
  unfold atom
  refine .ite (fun _ => .inl rfl) fun _ => ?_
  have texts := graph.answers_textOf (graph.nodes.length + 1) id
  split
  · rename_i fault failed
    rcases texts.fault_of_eq failed with rfl | rfl
    · exact .inl rfl
    · obtain ⟨walk, length, ordered, inside⟩ := exists_walk failed
      obtain ⟨round, goes⟩ := exists_round ordered (fun place member => (inside place member).1) (by omega)
      exact .inr (.endless goes)
  · rename_i text found
    have spells : graph.Spells id text := texts.value_of_eq found
    refine .ite (fun broken => ?_) fun _ => ?_
    · obtain ⟨tagged, isMapping⟩ := Bool.and_eq_true_iff.mp broken
      exact .inr (.timestamp (of_decide_eq_true tagged) isMapping)
    · cases failed : Atom.ofText (graph.tagOf id) text with
      | ok value => trivial
      | error fault => exact (Atom.isChoosy_of_ofText failed).imp_right fun choosy => .text choosy spells failed

/-! ### Merging -/

/-- What merging does to a graph: some keys `=` become texts, and mappings get other pairs, of which none has a new
key `=`. -/
structure Evolves (before after : Graph) : Prop where
  size : after.nodes.length = before.nodes.length
  tag : ∀ id, after.tagOf id = before.tagOf id ∨ before.tagOf id = .value ∧ after.tagOf id = .text
  content : ∀ id, after.contentOf id = before.contentOf id ∨ before.isMapping id = true ∧ after.isMapping id = true
  pairs : ∀ id, ∀ pair ∈ after.pairsOf id, after.tagOf pair.1 = .value → pair ∈ before.pairsOf id

namespace Evolves

variable {last : Graph}

theorem refl (graph : Graph) : graph.Evolves graph :=
  ⟨rfl, fun _ => .inl rfl, fun _ => .inl rfl, fun _ _ member _ => member⟩

theorem tag_value (evolves : before.Evolves after) (value : after.tagOf id = .value) : before.tagOf id = .value := by
  rcases evolves.tag id with same | ⟨was, -⟩
  · rw [← same, value]
  · exact was

theorem isMapping (evolves : before.Evolves after) (id : Nat) : after.isMapping id = before.isMapping id := by
  rcases evolves.content id with same | ⟨was, is⟩
  · rw [Graph.isMapping, Graph.isMapping, same]
  · rw [was, is]

theorem trans (one : before.Evolves after) (two : after.Evolves last) : before.Evolves last where
  size := two.size.trans one.size
  tag id := by
    rcases two.tag id with same | ⟨was, is⟩
    · rw [same]
      exact one.tag id
    · exact .inr ⟨one.tag_value was, is⟩
  content id := by
    rcases two.content id with same | ⟨was, is⟩
    · rcases one.content id with early | ⟨first, second⟩
      · exact .inl (same.trans early)
      · exact .inr ⟨first, by rw [two.isMapping, second]⟩
    · exact .inr ⟨by rw [← one.isMapping, was], is⟩
  pairs id pair member value := one.pairs id pair (two.pairs id pair member value) (two.tag_value value)

theorem standsFor (evolves : before.Evolves after) {value : Nat} (stands : after.StandsFor id value) :
    before.StandsFor id value := by
  obtain ⟨key, member, tagged⟩ := stands
  exact ⟨key, evolves.pairs id _ member tagged, evolves.tag_value tagged⟩

theorem spells (evolves : before.Evolves after) (spells : after.Spells id text) : before.Spells id text := by
  obtain ⟨last, leads, content⟩ := spells
  refine ⟨last, Relation.ReflTransGen.mono (fun _ _ => evolves.standsFor) _ _ leads, ?_⟩
  rcases evolves.content last with same | ⟨-, isMapping⟩
  · rw [← same, content]
  · obtain ⟨pairs, other⟩ := isMapping_iff.mp isMapping
    cases content.symm.trans other

theorem senseless (evolves : before.Evolves after) (senseless : after.Senseless fault) : before.Senseless fault := by
  cases senseless with
  | @text id text _ choosy spells valueless =>
    rcases evolves.tag id with same | ⟨-, is⟩
    · exact .text (same ▸ choosy) (evolves.spells spells) (same ▸ valueless)
    · rw [is] at choosy
      cases choosy
  | @timestamp id tagged isMapping =>
    rcases evolves.tag id with same | ⟨-, is⟩
    · exact .timestamp (same ▸ tagged) (evolves.isMapping id ▸ isMapping)
    · cases is.symm.trans tagged
  | endless round => exact .endless (Relation.TransGen.mono (fun _ _ => evolves.standsFor) _ _ round)

end Evolves

@[simp] theorem tagOf_setPairs (graph : Graph) (id : Nat) (pairs : List (Nat × Nat)) (other : Nat) :
    (graph.setPairs id pairs).tagOf other = graph.tagOf other := by
  unfold tagOf setPairs
  rw [List.getElem?_modify]
  cases graph.nodes[other]? with
  | none => rfl
  | some node =>
    by_cases here : id = other
    · cases content : node.content <;> simp [here, content]
    · simp [here]

theorem contentOf_setPairs (graph : Graph) (id : Nat) (pairs : List (Nat × Nat)) (other : Nat) :
    (graph.setPairs id pairs).contentOf other =
      if id = other ∧ graph.isMapping other = true then .mapping pairs else graph.contentOf other := by
  unfold isMapping contentOf setPairs
  rw [List.getElem?_modify]
  cases graph.nodes[other]? with
  | none => simp
  | some node =>
    by_cases here : id = other
    · cases content : node.content <;> simp [here, content]
    · simp [here]

theorem pairsOf_setPairs (graph : Graph) (id : Nat) (pairs : List (Nat × Nat)) (other : Nat) :
    (graph.setPairs id pairs).pairsOf other =
      if id = other ∧ graph.isMapping other = true then pairs else graph.pairsOf other := by
  rw [pairsOf, contentOf_setPairs]
  by_cases here : id = other ∧ graph.isMapping other = true
  · rw [if_pos here, if_pos here]
  · rw [if_neg here, if_neg here, pairsOf]

theorem tagOf_nameKey (graph : Graph) (pair : Nat × Nat) (other : Nat) :
    (graph.nameKey pair).tagOf other =
      if pair.1 = other ∧ graph.tagOf other = .value then .text else graph.tagOf other := by
  unfold tagOf nameKey
  rw [List.getElem?_modify]
  cases graph.nodes[other]? with
  | none => simp
  | some node =>
    by_cases here : pair.1 = other
    · by_cases value : node.tag = .value <;> simp [here, value]
    · simp [here]

@[simp] theorem contentOf_nameKey (graph : Graph) (pair : Nat × Nat) (other : Nat) :
    (graph.nameKey pair).contentOf other = graph.contentOf other := by
  unfold contentOf nameKey
  rw [List.getElem?_modify]
  cases graph.nodes[other]? with
  | none => rfl
  | some node =>
    by_cases here : pair.1 = other
    · by_cases value : node.tag = .value <;> simp [here, value]
    · simp [here]

/-- None of the pairs has the key `=`. -/
def Named (graph : Graph) (pairs : List (Nat × Nat)) : Prop := ∀ pair ∈ pairs, graph.tagOf pair.1 ≠ .value

theorem named_nil (graph : Graph) : graph.Named [] := fun _ member => nomatch member

theorem Named.evolve {pairs : List (Nat × Nat)} (named : before.Named pairs) (evolves : before.Evolves after) :
    after.Named pairs :=
  fun pair member value => named pair member (evolves.tag_value value)

theorem Named.append {front behind : List (Nat × Nat)} (named : graph.Named front) (also : graph.Named behind) :
    graph.Named (front ++ behind) :=
  fun pair member => (List.mem_append.mp member).elim (named pair) (also pair)

theorem evolves_setPairs {pairs : List (Nat × Nat)}
    (old : ∀ pair ∈ pairs, graph.tagOf pair.1 = .value → pair ∈ graph.pairsOf id) :
    graph.Evolves (graph.setPairs id pairs) where
  size := List.length_modify ..
  tag other := .inl (graph.tagOf_setPairs id pairs other)
  content other := by
    by_cases here : id = other ∧ graph.isMapping other = true
    · refine .inr ⟨here.2, ?_⟩
      rw [isMapping, contentOf_setPairs, if_pos here]
    · exact .inl (by rw [contentOf_setPairs, if_neg here])
  pairs other pair member value := by
    rw [tagOf_setPairs] at value
    rw [pairsOf_setPairs] at member
    split at member
    · rename_i here
      exact here.1 ▸ old pair member value
    · exact member

theorem evolves_nameKey (graph : Graph) (pair : Nat × Nat) : graph.Evolves (graph.nameKey pair) where
  size := List.length_modify ..
  tag other := by
    rw [tagOf_nameKey]
    split
    · rename_i here
      exact .inr ⟨here.2, rfl⟩
    · exact .inl rfl
  content other := .inl (graph.contentOf_nameKey pair other)
  pairs other old member _ := by rwa [pairsOf, contentOf_nameKey] at member

theorem evolves_foldl_nameKey (graph : Graph) (pairs : List (Nat × Nat)) :
    graph.Evolves (pairs.foldl nameKey graph) ∧ (pairs.foldl nameKey graph).Named pairs ∧
      ∀ id, (pairs.foldl nameKey graph).pairsOf id = graph.pairsOf id := by
  induction pairs generalizing graph with
  | nil => exact ⟨.refl graph, named_nil graph, fun _ => rfl⟩
  | cons pair rest ih =>
    obtain ⟨evolves, named, same⟩ := ih (graph.nameKey pair)
    have here : (graph.nameKey pair).tagOf pair.1 ≠ .value := by
      rw [tagOf_nameKey]
      split
      · exact nofun
      · rename_i other
        exact fun value => other ⟨rfl, value⟩
    refine ⟨(graph.evolves_nameKey pair).trans evolves, List.forall_mem_cons.mpr ⟨?_, named⟩, fun id => ?_⟩
    · exact fun value => here (evolves.tag_value value)
    · rw [List.foldl_cons, same, pairsOf, contentOf_nameKey, pairsOf]

theorem evolves_bring {flatten : Graph → Nat → Option Graph} {sources : List Nat}
    {start brought : Graph × List (Nat × Nat)}
    (flattens : ∀ before id flat, flatten before id = some flat → before.Evolves flat ∧ flat.Named (flat.pairsOf id))
    (named : start.1.Named start.2) (brings : sources.foldlM (bring flatten) start = some brought) :
    start.1.Evolves brought.1 ∧ brought.1.Named brought.2 := by
  induction sources generalizing start with
  | nil =>
    cases brings
    exact ⟨.refl _, named⟩
  | cons source rest ih =>
    rw [List.foldlM_cons] at brings
    obtain ⟨next, first, later⟩ := Option.bind_eq_some_iff.mp brings
    obtain ⟨flat, flattened, rfl⟩ := Option.map_eq_some_iff.mp first
    obtain ⟨evolves, own⟩ := flattens _ _ _ flattened
    obtain ⟨more, all⟩ := ih (own.append (named.evolve evolves)) later
    exact ⟨evolves.trans more, all⟩

/-- A mapping that is flattened has no key `=`, and nothing else has a new one. -/
theorem evolves_flatten {steps : Nat} {merged : List (Nat × Nat)} {flat : Graph} (named : graph.Named merged)
    (flattened : graph.flatten steps merged id = some flat) :
    graph.Evolves flat ∧ flat.Named (flat.pairsOf id) := by
  induction steps generalizing merged graph id flat with
  | zero => cases flattened
  | succ steps ih =>
    rw [flatten] at flattened
    split at flattened
    · cases flattened
      obtain ⟨evolves, own, same⟩ :=
        (graph.setPairs id (merged ++ graph.pairsOf id)).evolves_foldl_nameKey (graph.pairsOf id)
      have first : graph.Evolves (graph.setPairs id (merged ++ graph.pairsOf id)) := evolves_setPairs fun pair member =>
        (List.mem_append.mp member).elim (fun front value => absurd value (named pair front)) fun behind _ => behind
      refine ⟨first.trans evolves, ?_⟩
      rw [same, pairsOf_setPairs]
      split
      · exact ((named.evolve first).evolve evolves).append own
      · exact own
    · rename_i pair found
      obtain ⟨sources, _, rest⟩ := Option.bind_eq_some_iff.mp flattened
      obtain ⟨brought, brings, last⟩ := Option.bind_eq_some_iff.mp rest
      have first : graph.Evolves (graph.setPairs id ((graph.pairsOf id).eraseP graph.isMerge)) :=
        evolves_setPairs fun pair member _ => List.mem_of_mem_eraseP member
      obtain ⟨more, names⟩ := evolves_bring (fun _ _ _ => ih (named_nil _)) (named_nil _) brings
      have evolves := first.trans more
      obtain ⟨final, own⟩ := ih ((named.evolve evolves).append names) last
      exact ⟨evolves.trans final, own⟩

end Graph

namespace Construction

variable {construction : Construction} {holds : Construction → Prop} {faulty : Fault → Prop}

/-- What stays true of a construction while nodes are made and mappings are merged, as long as there is no fault. -/
structure Lasts (holds : Construction → Prop) (faulty : Fault → Prop) : Prop where
  malformed : faulty .malformed
  make : ∀ construction, holds construction → ∀ id, Answers holds faulty (construction.make id)
  merge : ∀ construction flat, holds construction → construction.graph.Evolves flat →
    holds { construction with graph := flat }

namespace Lasts

theorem makePair (lasts : Lasts holds faulty) (start : holds construction) (pair : Nat × Nat) :
    Answers holds faulty (construction.makePair pair) :=
  .ite (fun _ => lasts.malformed) fun _ =>
    (lasts.make _ start pair.1).bind fun next more => lasts.make next more pair.2

theorem makeItem (lasts : Lasts holds faulty) (start : holds construction) (id : Nat) :
    Answers holds faulty (construction.makeItem id) := by
  unfold Construction.makeItem
  split
  · rename_i key value _
    exact (lasts.make _ start key).bind fun next more => lasts.make next more value
  · exact lasts.malformed

theorem fillMapping (lasts : Lasts holds faulty) (start : holds construction) (id : Nat) :
    Answers holds faulty (construction.fillMapping id) := by
  unfold Construction.fillMapping
  split
  · rename_i flat flattened
    have evolves := (Graph.evolves_flatten (Graph.named_nil _) flattened).1
    exact .foldlM (lasts.merge _ flat start evolves) fun _ pair more => lasts.makePair more pair
  · exact lasts.malformed

theorem fill (lasts : Lasts holds faulty) (start : holds construction) (id : Nat) :
    Answers holds faulty (construction.fill id) := by
  unfold Construction.fill
  split
  · exact .foldlM start fun next id more => lasts.make next more id
  · exact .foldlM start fun _ id more => lasts.makeItem more id
  · exact .foldlM start fun _ id more => lasts.makeItem more id
  · exact lasts.fillMapping start id
  · exact lasts.fillMapping start id
  · exact lasts.malformed

end Lasts

/-- What is made of a graph fails for what its own nodes say. -/
theorem lasts_evolves (graph : Graph) : Lasts (fun next => graph.Evolves next.graph) graph.ValueFault where
  malformed := .inl rfl
  make construction evolves id := by
    unfold make
    refine .ite (fun _ => .ite (fun _ => evolves) fun _ => evolves) fun _ => .ite (fun _ => evolves) fun _ => ?_
    have atoms := construction.graph.answers_atom id
    exact (atoms.mono (fun _ _ => evolves) fun _ bad => bad.imp_right evolves.senseless).map fun _ kept => kept
  merge _ _ evolves more := evolves.trans more

theorem evolves_fillAll {graph : Graph} (evolves : graph.Evolves construction.graph) (count : Nat) :
    Answers (fun next => graph.Evolves next.graph) graph.ValueFault (fillAll count construction) := by
  induction count generalizing construction with
  | zero => exact evolves
  | succ count ih =>
    unfold fillAll
    split
    · exact evolves
    · rename_i waiting _
      have kept : graph.Evolves { construction with waiting := waiting }.graph := evolves
      exact ((lasts_evolves graph).fill kept _).bind fun _ more => ih more

theorem evolves_ofGraph (graph : Graph) :
    Answers (fun next => graph.Evolves next.graph) graph.ValueFault (ofGraph graph) :=
  ((lasts_evolves graph).make _ (.refl graph) graph.root).bind fun _ kept => evolves_fillAll kept _

end Construction

/-- Why a text that is formed well has no value. -/
def Unmeant (text : List Char) (fault : Fault) : Prop :=
  Miswritten text fault ∨ ∃ graph, Graph.ofText text = .ok (some graph) ∧ graph.Senseless fault

theorem unmeant_of_ofText {depth : Nat} {text : List Char} {fault : Fault}
    (failed : Value.ofText depth text = .error fault) (formed : fault ≠ .malformed) : Unmeant text fault := by
  unfold Value.ofText at failed
  split at failed
  · rename_i uncomposed
    cases failed
    exact .inl (((answers_graph text).fault_of_eq uncomposed).resolve_left formed)
  · cases failed
  · rename_i graph composed
    have constructed : Answers (fun _ => True) graph.ValueFault
        ((Construction.ofGraph graph).map (·.unfold depth graph.root)) :=
      (Construction.evolves_ofGraph graph).map fun _ _ => trivial
    exact .inr ⟨graph, composed, (constructed.fault_of_eq failed).resolve_left formed⟩

end Yaml
end UsingCensus
