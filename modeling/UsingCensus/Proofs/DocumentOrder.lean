import UsingCensus.CSharp.Syntax

/-!
Document order. Main statement: the search through a stack of trees comes to its end, and it finds the names of the
outermost directives of a tree, each directive once and in the order of the document.
-/
namespace UsingCensus.CSharp

namespace SyntaxTree

theorem importsInOrderAll_append (first second : List SyntaxTree) :
    importsInOrderAll (first ++ second) = importsInOrderAll first ++ importsInOrderAll second := by
  induction first with
  | nil => rfl
  | cons tree rest ih => rw [List.cons_append, importsInOrderAll, ih, importsInOrderAll, List.append_assoc]

theorem importsInOrder_eq_ite (tree : SyntaxTree) :
    tree.importsInOrder =
      if tree.kind = .directive then tree.importedName?.toList else importsInOrderAll tree.children := by
  cases tree
  rw [importsInOrder]
  rfl

/-- What a stack yields is what its trees yield, one after the other. -/
theorem importsOfStack_eq (stack : List SyntaxTree) : importsOfStack stack = importsInOrderAll stack := by
  fun_induction importsOfStack stack with
  | case1 => rfl
  | case2 tree rest kind ih => rw [ih, importsInOrderAll, importsInOrder_eq_ite, if_pos kind]
  | case3 tree rest kind ih =>
    rw [ih, importsInOrderAll_append, importsInOrderAll, importsInOrder_eq_ite, if_neg kind]

end SyntaxTree

/-! ### The search, round by round -/

open SyntaxTree

/-- A search between two rounds: the trees that wait, the next one at the end, and the names found so far. -/
structure Search where
  waiting : List SyntaxTree
  names : List String

namespace Search

/-- Take the next tree off: a directive gives its name, and the children of any other tree wait, the first one at
the end. -/
def round (search : Search) : Option Search :=
  search.waiting.getLast?.map fun tree =>
    if tree.kind = .directive then ⟨search.waiting.dropLast, search.names ++ tree.importedName?.toList⟩
    else ⟨search.waiting.dropLast ++ tree.children.reverse, search.names⟩

def after : Nat → Search → Option Search
  | 0, search => some search
  | rounds + 1, search => search.round.bind (after rounds)

theorem round_reverse (tree : SyntaxTree) (rest : List SyntaxTree) (names : List String) :
    round ⟨(tree :: rest).reverse, names⟩ =
      if tree.kind = .directive then some ⟨rest.reverse, names ++ tree.importedName?.toList⟩
      else some ⟨(tree.children ++ rest).reverse, names⟩ := by
  unfold round
  simp only [List.reverse_cons, List.getLast?_concat, List.dropLast_concat, Option.map_some, List.reverse_append]
  split <;> rfl

/-- Each round takes one node off, so no search has more rounds than the trees that wait have nodes. -/
theorem exists_after (stack : List SyntaxTree) (names : List String) :
    ∃ rounds ≤ sizeOfAll stack, after rounds ⟨stack.reverse, names⟩ = some ⟨[], names ++ importsOfStack stack⟩ := by
  fun_induction importsOfStack stack generalizing names with
  | case1 => exact ⟨0, Nat.le_refl 0, by rw [List.append_nil]; rfl⟩
  | case2 tree rest kind ih =>
    obtain ⟨rounds, few, ends⟩ := ih (names ++ tree.importedName?.toList)
    refine ⟨rounds + 1, ?_, ?_⟩
    · rw [sizeOfAll, size_eq]
      omega
    · rw [after, round_reverse, if_pos kind, Option.bind_some, ends, List.append_assoc]
  | case3 tree rest kind ih =>
    obtain ⟨rounds, few, ends⟩ := ih names
    refine ⟨rounds + 1, ?_, ?_⟩
    · rw [sizeOfAll_append] at few
      rw [sizeOfAll, size_eq]
      omega
    · rw [after, round_reverse, if_neg kind, Option.bind_some, ends]

end Search

/-! ### Places of directives -/

namespace SyntaxTree

/-- The tree at a place: the positions of the children on the way down. -/
def at? (tree : SyntaxTree) : List Nat → Option SyntaxTree
  | [] => some tree
  | position :: rest => tree.children[position]?.bind fun child => child.at? rest

/-- A directive at a place, with no directive above it. -/
structure Outermost (tree : SyntaxTree) (place : List Nat) (directive : SyntaxTree) : Prop where
  stands : tree.at? place = some directive
  isDirective : directive.kind = .directive
  free : ∀ above, above <+: place → above ≠ place → ∀ node, tree.at? above = some node → node.kind ≠ .directive

mutual

/-- The outermost directives of a tree with their places, from left to right. -/
def outermost : SyntaxTree → List (List Nat × SyntaxTree)
  | .node kind text children =>
    if kind = .directive then [([], .node kind text children)] else outermostAll 0 children

/-- The same of neighbours, whose positions are counted from `first` on. -/
def outermostAll (first : Nat) : List SyntaxTree → List (List Nat × SyntaxTree)
  | [] => []
  | tree :: rest =>
    tree.outermost.map (fun (place, directive) => (first :: place, directive)) ++ outermostAll (first + 1) rest

end

mutual

theorem importsInOrder_eq : (tree : SyntaxTree) →
    tree.importsInOrder = tree.outermost.flatMap fun (_, directive) => directive.importedName?.toList
  | .node kind text children => by
    rw [importsInOrder, outermost]
    split
    · rw [List.flatMap_singleton]
    · exact importsInOrderAll_eq 0 children

theorem importsInOrderAll_eq (first : Nat) : (trees : List SyntaxTree) →
    importsInOrderAll trees = (outermostAll first trees).flatMap fun (_, directive) => directive.importedName?.toList
  | [] => rfl
  | tree :: rest => by
    rw [importsInOrderAll, outermostAll, List.flatMap_append, List.flatMap_map, importsInOrder_eq tree,
      importsInOrderAll_eq (first + 1) rest]

end

variable {tree directive : SyntaxTree} {place : List Nat}

theorem outermost_nil_iff : tree.Outermost [] directive ↔ tree = directive ∧ directive.kind = .directive := by
  constructor
  · rintro ⟨stands, isDirective, _⟩
    exact ⟨Option.some.inj stands, isDirective⟩
  · rintro ⟨rfl, isDirective⟩
    refine ⟨rfl, isDirective, fun above prefixed different => ?_⟩
    exact absurd (List.prefix_nil.mp prefixed) different

theorem outermost_cons_iff {position : Nat} :
    tree.Outermost (position :: place) directive ↔
      tree.kind ≠ .directive ∧ ∃ child, tree.children[position]? = some child ∧ child.Outermost place directive := by
  constructor
  · rintro ⟨stands, isDirective, free⟩
    obtain ⟨child, found, stands⟩ := Option.bind_eq_some_iff.mp stands
    refine ⟨free [] List.nil_prefix (by simp) tree rfl, child, found, stands, isDirective, ?_⟩
    intro above prefixed different node there
    refine free (position :: above) (List.cons_prefix_cons.mpr ⟨rfl, prefixed⟩) (by simpa using different) node ?_
    rw [at?, found, Option.bind_some, there]
  · rintro ⟨top, child, found, stands, isDirective, free⟩
    refine ⟨by rw [at?, found, Option.bind_some, stands], isDirective, ?_⟩
    intro above prefixed different node there
    rcases List.prefix_cons_iff.mp prefixed with rfl | ⟨rest, rfl, below⟩
    · exact Option.some.inj there ▸ top
    · rw [at?, found, Option.bind_some] at there
      exact free rest below (by simpa using different) node there

mutual

/-- All outermost directives are listed, and nothing else is. -/
theorem mem_outermost_iff : (tree : SyntaxTree) → ∀ place directive,
    (place, directive) ∈ tree.outermost ↔ tree.Outermost place directive
  | .node kind text children => by
    intro place directive
    rw [outermost]
    split
    · rename_i isDirective
      rw [List.mem_singleton, Prod.mk.injEq]
      cases place with
      | nil =>
        rw [outermost_nil_iff]
        constructor
        · rintro ⟨_, rfl⟩
          exact ⟨rfl, isDirective⟩
        · rintro ⟨rfl, _⟩
          exact ⟨rfl, rfl⟩
      | cons position below =>
        rw [outermost_cons_iff]
        constructor
        · rintro ⟨impossible, _⟩
          cases impossible
        · rintro ⟨other, _⟩
          exact absurd isDirective other
    · rename_i other
      rw [mem_outermostAll_iff]
      cases place with
      | nil =>
        rw [outermost_nil_iff]
        constructor
        · rintro ⟨_, _, _, impossible, _⟩
          cases impossible
        · rintro ⟨rfl, isDirective⟩
          exact absurd isDirective other
      | cons position below =>
        rw [outermost_cons_iff]
        constructor
        · rintro ⟨offset, child, _, same, found, stands⟩
          obtain ⟨rfl, rfl⟩ := List.cons.inj same
          exact ⟨other, child, by rwa [Nat.zero_add], stands⟩
        · rintro ⟨_, child, found, stands⟩
          exact ⟨position, child, below, by rw [Nat.zero_add], found, stands⟩

theorem mem_outermostAll_iff : (first : Nat) → (trees : List SyntaxTree) →
    ∀ (place : List Nat) (directive : SyntaxTree), (place, directive) ∈ outermostAll first trees ↔
      ∃ offset child below, place = (first + offset) :: below ∧ trees[offset]? = some child ∧
        child.Outermost below directive
  | first, [], place, directive => by simp [outermostAll]
  | first, tree :: rest, place, directive => by
    have here := mem_outermost_iff tree
    have later := mem_outermostAll_iff (first + 1) rest place directive
    rw [outermostAll, List.mem_append, later]
    constructor
    · rintro (member | ⟨offset, child, below, rfl, found, stands⟩)
      · obtain ⟨⟨below, listed⟩, member, same⟩ := List.mem_map.mp member
        cases same
        exact ⟨0, tree, below, rfl, rfl, (here below directive).mp member⟩
      · exact ⟨offset + 1, child, below, by rw [Nat.add_right_comm, Nat.add_assoc], found, stands⟩
    · rintro ⟨offset, child, below, rfl, found, stands⟩
      cases offset with
      | zero =>
        cases found
        exact .inl (List.mem_map.mpr ⟨_, (here below directive).mpr stands, rfl⟩)
      | succ fewer => exact .inr ⟨fewer, child, below, by rw [Nat.add_right_comm, Nat.add_assoc], found, stands⟩

end

mutual

theorem pairwise_outermost : (tree : SyntaxTree) → (tree.outermost.map Prod.fst).Pairwise (· < ·)
  | .node kind text children => by
    rw [outermost]
    split
    · exact List.pairwise_singleton _ _
    · exact pairwise_outermostAll 0 children

theorem pairwise_outermostAll : (first : Nat) → (trees : List SyntaxTree) →
    ((outermostAll first trees).map Prod.fst).Pairwise (· < ·)
  | _, [] => List.Pairwise.nil
  | first, tree :: rest => by
    rw [outermostAll, List.map_append, List.pairwise_append]
    refine ⟨?_, pairwise_outermostAll (first + 1) rest, ?_⟩
    · have below := pairwise_outermost tree
      rw [List.pairwise_map] at below ⊢
      rw [List.pairwise_map]
      refine below.imp fun earlier => ?_
      exact List.cons_lt_cons_iff.mpr (.inr ⟨rfl, earlier⟩)
    · intro early here late there
      rw [List.map_map, List.mem_map] at here
      obtain ⟨_, _, rfl⟩ := here
      obtain ⟨⟨_, directive⟩, member, rfl⟩ := List.mem_map.mp there
      obtain ⟨offset, _, _, same, _⟩ := (mem_outermostAll_iff (first + 1) rest _ directive).mp member
      dsimp only [Function.comp] at same ⊢
      rw [same]
      exact List.cons_lt_cons_iff.mpr (.inl (by omega))

end

/-- The names of the outermost directives of a tree, as they are found. -/
structure ReadInOrder (tree : SyntaxTree) (names : List String) : Prop where
  /-- They are those of a walk from the top down and from left to right. -/
  walked : names = tree.importsInOrder
  /-- The search for them ends, and each node is taken off in one round at most. -/
  searched : ∃ rounds ≤ tree.size, Search.after rounds ⟨[tree], []⟩ = some ⟨[], names⟩ ∧
    Search.round ⟨[], names⟩ = none
  /-- Each outermost directive gives its name, if it has one, once and in the order of the places. -/
  listed : ∃ directives : List (List Nat × SyntaxTree),
    (∀ place directive, (place, directive) ∈ directives ↔ tree.Outermost place directive) ∧
    (directives.map Prod.fst).Pairwise (· < ·) ∧
    names = directives.flatMap fun (_, directive) => directive.importedName?.toList

/-- The search finds the names in the order of the document, whatever the tree. -/
theorem imports_inOrder (tree : SyntaxTree) : tree.ReadInOrder tree.imports := by
  have walked : tree.imports = tree.importsInOrder := by
    rw [imports, importsOfStack_eq, importsInOrderAll, importsInOrderAll, List.append_nil]
  refine ⟨walked, ?_, tree.outermost, mem_outermost_iff tree, pairwise_outermost tree, ?_⟩
  · obtain ⟨rounds, few, ends⟩ := Search.exists_after [tree] []
    rw [sizeOfAll, sizeOfAll, Nat.add_zero] at few
    exact ⟨rounds, few, ends, rfl⟩
  · rw [walked, importsInOrder_eq]

end SyntaxTree
end UsingCensus.CSharp
