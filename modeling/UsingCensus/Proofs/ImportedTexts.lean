import UsingCensus.CSharp.Directive

namespace UsingCensus.CSharp

def textOf (tokens : List Token) : String := String.ofList (tokens.flatMap Token.text)

theorem leaf?_eq_some {token : Token} {leaf : SyntaxTree} (made : token.leaf? = some leaf) :
    leaf.children = [] ∧ leaf.kind ≠ .name ∧ leaf.kind ≠ .directive := by
  unfold Token.leaf? at made
  cases kind : token.kind <;> rw [kind] at made <;> cases made <;>
    simp [SyntaxTree.children, SyntaxTree.kind]

namespace DirectiveBody

theorem eq_targetNode_of_mem_children {body : DirectiveBody} {child : SyntaxTree}
    (member : child ∈ body.node.children) (named : child.kind = .name) : child = body.targetNode := by
  unfold node SyntaxTree.children at member
  simp only [List.cons_append, List.mem_cons, List.mem_append, List.mem_filterMap, List.not_mem_nil,
    or_false] at member
  rcases member with rfl | (⟨token, _, made⟩ | rfl | ⟨token, _, made⟩) | rfl
  · cases named
  · exact absurd named (leaf?_eq_some made).2.1
  · rfl
  · exact absurd named (leaf?_eq_some made).2.1
  · cases named

theorem eq_textOf_of_importedName? {body : DirectiveBody} {name : String}
    (imported : body.node.importedName? = some name) : name = textOf body.target := by
  unfold SyntaxTree.importedName? at imported
  cases aimed : body.node.target? with
  | none =>
    rw [aimed] at imported
    cases imported
  | some target =>
    rw [aimed] at imported
    dsimp only at imported
    split at imported
    · rename_i proper
      have child : target ∈ body.node.children := (List.mem_filter.mp (List.mem_of_getLast? aimed)).1
      rw [eq_targetNode_of_mem_children child proper.1] at imported
      exact (Option.some.inj imported).symm
    · cases imported

theorem prefix_of_splitTrailer (tokens : List Token) : (splitTrailer tokens).1 <+: tokens :=
  List.take_prefix _ _

theorem target_infix (tokens : List Token) : (ofTokens tokens).target <:+: tokens := by
  unfold ofTokens
  dsimp only
  split
  · rename_i equals type found
    have below : type <:+: tokens := by
      have after : equals :: type <:+ tokens := found ▸ List.dropWhile_suffix _
      exact ((List.suffix_cons equals type).trans after).isInfix
    exact ((prefix_of_splitTrailer _).isInfix.trans (List.dropWhile_suffix _).isInfix).trans below
  · exact (prefix_of_splitTrailer _).isInfix.trans (List.dropWhile_suffix _).isInfix

end DirectiveBody

/-- A directive imports consecutive ones of the tokens that it goes on with. -/
theorem importedName?_of_directive? {tokens : List Token} {directive : SyntaxTree}
    (found : directive? tokens = some directive) :
    directive.kind = .directive ∧
      ∀ name, directive.importedName? = some name → ∃ target, target <:+: tokens ∧ name = textOf target := by
  unfold directive? at found
  split at found
  · dsimp only at found
    split at found
    · cases found
      refine ⟨rfl, fun name imported => ?_⟩
      have target := DirectiveBody.target_infix (tokens.takeWhile (!isSemicolon ·))
      exact ⟨_, target.trans (List.takeWhile_prefix _).isInfix,
        DirectiveBody.eq_textOf_of_importedName? imported⟩
    · cases found
  · cases found

theorem mem_importsOfStack_nodes {tokens : List Token} {name : String}
    (imported : name ∈ SyntaxTree.importsOfStack (nodes tokens)) :
    ∃ target, target <:+: tokens ∧ name = textOf target := by
  fun_induction nodes tokens with
  | case1 =>
    rw [SyntaxTree.importsOfStack] at imported
    cases imported
  | case2 token rest directive found ih =>
    have opened : directive? rest = some directive := by
      split at found
      · exact found
      · cases found
    obtain ⟨kind, names⟩ := importedName?_of_directive? opened
    rw [SyntaxTree.importsOfStack, if_pos kind, List.mem_append] at imported
    rcases imported with here | later
    · obtain ⟨target, within, same⟩ := names name (Option.mem_toList.mp here)
      exact ⟨target, within.trans (List.suffix_cons token rest).isInfix, same⟩
    · obtain ⟨target, within, same⟩ := ih later
      have after : afterSemicolon rest <:+ rest := (List.tail_suffix _).trans (List.dropWhile_suffix _)
      exact ⟨target, within.trans (after.trans (List.suffix_cons token rest)).isInfix, same⟩
  | case3 token rest found ih =>
    have later : name ∈ SyntaxTree.importsOfStack (nodes rest) := by
      cases made : token.leaf? with
      | none =>
        rw [made] at imported
        exact imported
      | some leaf =>
        obtain ⟨childless, _, kind⟩ := leaf?_eq_some made
        rw [made, Option.toList_some, List.singleton_append, SyntaxTree.importsOfStack, if_neg kind,
          childless] at imported
        exact imported
    obtain ⟨target, within, same⟩ := ih later
    exact ⟨target, within.trans (List.suffix_cons token rest).isInfix, same⟩

theorem infix_of_mem_importsOfBytes {bytes : List UInt8} {name : String}
    (imported : name ∈ importsOfBytes bytes) : name.toList <:+: Text.Utf8.decodeSkipping bytes := by
  have below : name ∈ SyntaxTree.importsOfStack (nodes (tokens (Text.Utf8.decodeSkipping bytes))) := by
    unfold importsOfBytes SyntaxTree.ofSource SyntaxTree.imports at imported
    rw [SyntaxTree.importsOfStack, if_neg (by simp [SyntaxTree.kind])] at imported
    simpa [SyntaxTree.children] using imported
  obtain ⟨target, ⟨before, after, whole⟩, rfl⟩ := mem_importsOfStack_nodes below
  have source := flatMap_text_tokensFrom [] (Text.Utf8.decodeSkipping bytes)
  rw [tokens] at whole
  rw [← whole, List.flatMap_append, List.flatMap_append] at source
  rw [textOf, String.toList_ofList]
  exact ⟨_, _, source⟩

end UsingCensus.CSharp
