namespace UsingCensus.CSharp

/-- Comments and preprocessor lines are nodes of their own and may stand among the children of any node. -/
inductive NodeKind where
  | directive
  | name
  | comment
  | line
  | other
  | mark
  deriving DecidableEq, Repr

/-- Marks are punctuation and keywords; all other nodes are named. -/
def NodeKind.isNamed : NodeKind → Bool
  | .mark => false
  | _ => true

inductive SyntaxTree where
  | node (kind : NodeKind) (text : String) (children : List SyntaxTree)

namespace SyntaxTree

def kind : SyntaxTree → NodeKind
  | .node kind _ _ => kind

def text : SyntaxTree → String
  | .node _ text _ => text

def children : SyntaxTree → List SyntaxTree
  | .node _ _ children => children

mutual

def size : SyntaxTree → Nat
  | .node _ _ children => 1 + sizeOfAll children

def sizeOfAll : List SyntaxTree → Nat
  | [] => 0
  | tree :: rest => tree.size + sizeOfAll rest

end

theorem size_eq (tree : SyntaxTree) : tree.size = 1 + sizeOfAll tree.children := by
  cases tree
  rfl

theorem sizeOfAll_append (first second : List SyntaxTree) :
    sizeOfAll (first ++ second) = sizeOfAll first + sizeOfAll second := by
  induction first with
  | nil => simp [sizeOfAll]
  | cons tree rest ih => simp only [List.cons_append, sizeOfAll, ih]; omega

/-- The target of a directive: its last named child that is no comment. -/
def target? (directive : SyntaxTree) : Option SyntaxTree :=
  (directive.children.filter fun child => child.kind.isNamed && child.kind ≠ .comment).getLast?

/-- The name that a directive imports; other targets than names, and empty names, have none. -/
def importedName? (directive : SyntaxTree) : Option String :=
  match directive.target? with
  | some target => if target.kind = .name ∧ target.text ≠ "" then some target.text else none
  | none => none

/-- The names imported below a stack of trees, the first tree first. -/
def importsOfStack (stack : List SyntaxTree) : List String :=
  match stack with
  | [] => []
  | tree :: rest =>
    if tree.kind = .directive then tree.importedName?.toList ++ importsOfStack rest
    else importsOfStack (tree.children ++ rest)
termination_by sizeOfAll stack
decreasing_by
  · rw [sizeOfAll, size_eq]; omega
  · rw [sizeOfAll_append, sizeOfAll, size_eq]; omega

/-- The names imported by the outermost directives of a tree. -/
def imports (tree : SyntaxTree) : List String := importsOfStack [tree]

mutual

/-- The names in document order, a node's children from left to right. -/
def importsInOrder : SyntaxTree → List String
  | .node kind text children =>
    if kind = .directive then (importedName? (.node kind text children)).toList
    else importsInOrderAll children

def importsInOrderAll : List SyntaxTree → List String
  | [] => []
  | tree :: rest => tree.importsInOrder ++ importsInOrderAll rest

end

end SyntaxTree
end UsingCensus.CSharp
