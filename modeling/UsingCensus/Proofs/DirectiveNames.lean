import UsingCensus.Proofs.ImportedTexts

/-!
The names of directives. Main statement: whatever stands before its target, and whatever comments stand behind it, a
directive counts its target. A preprocessor line behind the target is taken for it, though, and no name is counted.
-/
namespace UsingCensus.CSharp

namespace SyntaxTree

/-- A directive with a name as its target. Behind it stand only marks and what may stand between any two tokens. -/
structure Directs (directive target : SyntaxTree) (behind : List SyntaxTree) : Prop where
  isDirective : directive.kind = .directive
  children : ∃ before, directive.children = before ++ target :: behind
  isName : target.kind = .name
  written : target.text ≠ ""
  rest : ∀ child ∈ behind, child.kind = .comment ∨ child.kind = .line ∨ child.kind = .mark

variable {directive target : SyntaxTree} {behind : List SyntaxTree}

/-- Could the child be the target? -/
private def isCandidate (child : SyntaxTree) : Bool := child.kind.isNamed && child.kind ≠ .comment

/-- The last line behind the target comes before the target itself. -/
theorem Directs.target?_eq (directs : Directs directive target behind) :
    directive.target? = some ((behind.filter fun child => child.kind = .line).getLast?.getD target) := by
  obtain ⟨before, children⟩ := directs.children
  have lines : behind.filter isCandidate = behind.filter fun child => child.kind = .line := by
    apply List.filter_congr
    intro child member
    rcases directs.rest child member with kind | kind | kind
    · simp [isCandidate, kind]
    · simp [isCandidate, kind, NodeKind.isNamed]
    · simp [isCandidate, kind, NodeKind.isNamed]
  have named : isCandidate target = true := by simp [isCandidate, directs.isName, NodeKind.isNamed]
  change (directive.children.filter isCandidate).getLast? = _
  rw [children, List.filter_append, List.filter_cons_of_pos named, lines, List.getLast?_append, List.getLast?_cons]
  rfl

theorem Directs.importedName?_of_lineless (directs : Directs directive target behind)
    (lineless : ∀ child ∈ behind, child.kind ≠ .line) : directive.importedName? = some target.text := by
  have none : behind.filter (fun child => child.kind = .line) = [] := by
    apply List.filter_eq_nil_iff.mpr
    intro child member
    simpa using lineless child member
  unfold importedName?
  rw [directs.target?_eq, none, List.getLast?_nil, Option.getD_none]
  exact if_pos ⟨directs.isName, directs.written⟩

theorem Directs.importedName?_of_line (directs : Directs directive target behind)
    (line : ∃ child ∈ behind, child.kind = .line) : directive.importedName? = none := by
  obtain ⟨child, member, kind⟩ := line
  have some : behind.filter (fun child => child.kind = .line) ≠ [] := by
    apply List.ne_nil_of_mem
    exact List.mem_filter.mpr ⟨member, decide_eq_true kind⟩
  have last := List.getLast?_eq_some_getLast some
  have taken := of_decide_eq_true (List.mem_filter.mp (List.getLast_mem some)).2
  unfold importedName?
  rw [directs.target?_eq, last, Option.getD_some]
  exact if_neg fun proper => by
    rw [taken] at proper
    exact nomatch proper.1

/-- What a directive counts by its children. -/
structure Counts (directive target : SyntaxTree) (behind : List SyntaxTree) : Prop where
  name_iff : directive.importedName? = some target.text ↔ ∀ child ∈ behind, child.kind ≠ .line
  none_iff : directive.importedName? = none ↔ ∃ child ∈ behind, child.kind = .line
  /-- The walk through a tree goes on behind the directive. -/
  walk (rest : List SyntaxTree) : importsOfStack (directive :: rest) =
    (if ∃ child ∈ behind, child.kind = .line then [] else [target.text]) ++ importsOfStack rest

/-- A directive counts its target unless a preprocessor line stands behind it. -/
theorem directive_counts (directs : Directs directive target behind) : Counts directive target behind := by
  by_cases line : ∃ child ∈ behind, child.kind = .line
  · have name := directs.importedName?_of_line line
    refine ⟨?_, ?_, ?_⟩
    · constructor
      · intro imported
        rw [name] at imported
        cases imported
      · intro lineless
        obtain ⟨child, member, kind⟩ := line
        exact absurd kind (lineless child member)
    · exact ⟨fun _ => line, fun _ => name⟩
    · intro rest
      rw [importsOfStack, if_pos directs.isDirective, name, if_pos line]
      rfl
  · have lineless (child : SyntaxTree) (member : child ∈ behind) : child.kind ≠ .line :=
      fun kind => line ⟨child, member, kind⟩
    have name := directs.importedName?_of_lineless lineless
    refine ⟨?_, ?_, ?_⟩
    · exact ⟨fun _ => lineless, fun _ => name⟩
    · constructor
      · intro lost
        rw [name] at lost
        cases lost
      · exact fun lined => absurd lined line
    · intro rest
      rw [importsOfStack, if_pos directs.isDirective, name, if_neg line]
      rfl

/-- `using`, a name, a preprocessor line and the semicolon on the next line. -/
def pragmaDirective : SyntaxTree :=
  .node .directive "" [.node .mark "using" [], .node .name "System" [], .node .line "#pragma warning disable" [],
    .node .mark ";" []]

/-- The directive is lost, and so it is in the text that it stands for. -/
theorem directive_counts_sample :
    Directs pragmaDirective (.node .name "System" [])
      [.node .line "#pragma warning disable" [], .node .mark ";" []] ∧
    pragmaDirective.importedName? = none ∧
    importsOfBytes (Text.Utf8.ofString "using System\n#pragma warning disable\n;") = [] := by
  have directs : Directs pragmaDirective (.node .name "System" [])
      [.node .line "#pragma warning disable" [], .node .mark ";" []] := {
    isDirective := rfl
    children := ⟨[.node .mark "using" []], rfl⟩
    isName := rfl
    written := by decide
    rest := List.forall_mem_cons.mpr ⟨.inr (.inl rfl), List.forall_mem_singleton.mpr (.inr (.inr rfl))⟩ }
  refine ⟨directs, (directive_counts directs).none_iff.mpr ?_, ?_⟩
  · exact ⟨_, List.mem_cons_self, rfl⟩
  · decide +kernel

end SyntaxTree

/-! ### Directives that are read -/

namespace DirectiveBody

variable {body : DirectiveBody}

theorem kind_of_trivia {token : Token} {leaf : SyntaxTree} (trivial : token.isTrivia = true)
    (made : token.leaf? = some leaf) : leaf.kind = .comment ∨ leaf.kind = .line := by
  unfold Token.isTrivia at trivial
  unfold Token.leaf? at made
  cases kind : token.kind with
  | blank =>
    rw [kind] at made
    cases made
  | comment =>
    rw [kind] at made
    cases made
    exact .inl rfl
  | line =>
    rw [kind] at made
    cases made
    exact .inr rfl
  | literal => rw [kind] at trivial; cases trivial
  | word => rw [kind] at trivial; cases trivial
  | mark => rw [kind] at trivial; cases trivial

/-- The node of a directive that is read is one whose target is a name. -/
theorem directs_node (named : body.isNameless = false) (written : textOf body.target ≠ "")
    (trivial : ∀ token ∈ body.trailer, token.isTrivia = true) :
    SyntaxTree.Directs body.node body.targetNode (body.trailer.filterMap Token.leaf? ++ [.node .mark ";" []]) where
  isDirective := rfl
  children := ⟨.node .mark "using" [] :: body.header.filterMap Token.leaf?, by simp [node, SyntaxTree.children]⟩
  isName := by simp [targetNode, named, SyntaxTree.kind]
  written := written
  rest := by
    intro child member
    rcases List.mem_append.mp member with trailing | last
    · obtain ⟨token, within, made⟩ := List.mem_filterMap.mp trailing
      rcases kind_of_trivia (trivial token within) made with comment | line
      · exact .inl comment
      · exact .inr (.inl line)
    · cases List.mem_singleton.mp last
      exact .inr (.inr rfl)

theorem importedName?_node (named : body.isNameless = false) (written : textOf body.target ≠ "")
    (silent : ∀ token ∈ body.trailer, token.kind = .blank ∨ token.kind = .comment) :
    body.node.importedName? = some (textOf body.target) := by
  have trivial (token : Token) (within : token ∈ body.trailer) : token.isTrivia = true := by
    rcases silent token within with kind | kind
    · rw [Token.isTrivia, kind, TokenKind.isTrivia]
    · rw [Token.isTrivia, kind, TokenKind.isTrivia]
  apply (directs_node named written trivial).importedName?_of_lineless
  intro child member
  rcases List.mem_append.mp member with trailing | last
  · obtain ⟨token, within, made⟩ := List.mem_filterMap.mp trailing
    rcases silent token within with kind | kind
    · rw [Token.leaf?, kind] at made
      cases made
    · rw [Token.leaf?, kind] at made
      cases made
      exact nofun
  · cases List.mem_singleton.mp last
    exact nofun

end DirectiveBody
end UsingCensus.CSharp
