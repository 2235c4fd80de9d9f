import UsingCensus.Proofs.DirectiveNames
import UsingCensus.Proofs.EncodedTexts
import UsingCensus.Proofs.Programs

/-!
What programs import. Main statement: from any spelling of a program the targets of its directives are read, in their
order and with their repetitions, and nothing else.
-/
namespace UsingCensus.CSharp

/-- The names that are imported by tokens. -/
def namesOf (tokens : List Token) : List String := SyntaxTree.importsOfStack (nodes tokens)

theorem namesOf_nil : namesOf [] = [] := by
  rw [namesOf, nodes, SyntaxTree.importsOfStack]

theorem namesOf_cons {token : Token} (other : token.isWord "using" = false) (rest : List Token) :
    namesOf (token :: rest) = namesOf rest := by
  unfold namesOf
  rw [nodes, other, if_neg Bool.false_ne_true]
  dsimp only
  cases made : token.leaf? with
  | none => rfl
  | some leaf =>
    obtain ⟨childless, _, kind⟩ := leaf?_eq_some made
    rw [Option.toList_some, List.singleton_append, SyntaxTree.importsOfStack, if_neg kind, childless, List.nil_append]

/-- Tokens without the keyword of directives. -/
def IsSilent (tokens : List Token) : Prop := ∀ token ∈ tokens, token.isWord "using" = false

instance : DecidablePred IsSilent := fun tokens =>
  inferInstanceAs (Decidable (∀ token ∈ tokens, token.isWord "using" = false))

theorem namesOf_append {front : List Token} (silent : IsSilent front) (rest : List Token) :
    namesOf (front ++ rest) = namesOf rest := by
  induction front with
  | nil => rfl
  | cons token front ih =>
    obtain ⟨other, later⟩ := List.forall_mem_cons.mp silent
    rw [List.cons_append, namesOf_cons other, ih later]

theorem IsGap.isSilent {gap : List Token} (isGap : IsGap gap) : IsSilent gap := by
  intro token member
  unfold Token.isWord
  rcases isGap token member with kind | kind
  · rw [kind]
    rfl
  · rw [kind]
    rfl

theorem namesOf_gap {gap : List Token} (isGap : IsGap gap) (rest : List Token) :
    namesOf (gap ++ rest) = namesOf rest := namesOf_append isGap.isSilent rest

/-! ### Directives -/

section

variable {front rest : List Token} {next : Token} {holds : Token → Bool}

theorem takeWhile_append_cons (before : ∀ token ∈ front, holds token = true) (stops : holds next = false) :
    (front ++ next :: rest).takeWhile holds = front := by
  rw [List.takeWhile_append_of_pos before, List.takeWhile_cons_of_neg (by simp [stops]), List.append_nil]

theorem dropWhile_append_cons (before : ∀ token ∈ front, holds token = true) (stops : holds next = false) :
    (front ++ next :: rest).dropWhile holds = next :: rest := by
  rw [List.dropWhile_append_of_pos before, List.dropWhile_cons_of_neg (by simp [stops])]

end

theorem namesOf_directive {inner : List Token} {name : String} (inside : ∀ token ∈ inner, isSemicolon token = false)
    (directive : (DirectiveBody.ofTokens inner).isDirective = true)
    (imported : (DirectiveBody.ofTokens inner).node.importedName? = some name) (rest : List Token) :
    namesOf (.word "using" :: (inner ++ .sign ';' :: rest)) = name :: namesOf rest := by
  have before (token : Token) (member : token ∈ inner) : (!isSemicolon token) = true := by rw [inside token member]; rfl
  have closed : (inner ++ .sign ';' :: rest).any isSemicolon = true :=
    List.any_eq_true.mpr ⟨.sign ';', by simp, by decide⟩
  have found : directive? (inner ++ .sign ';' :: rest) = some (DirectiveBody.ofTokens inner).node := by
    rw [directive?, if_pos closed, takeWhile_append_cons before (by decide)]
    exact if_pos directive
  have keyword : (Token.word "using").isWord "using" = true := by decide
  unfold namesOf
  rw [nodes, keyword, if_pos rfl, found, afterSemicolon, dropWhile_append_cons before (by decide)]
  have kind : (DirectiveBody.ofTokens inner).node.kind = .directive := rfl
  dsimp only
  rw [SyntaxTree.importsOfStack, if_pos kind, imported]
  rfl

namespace DirectiveBody

theorem splitTrailer_append {target trailer : List Token} (trivial : ∀ token ∈ trailer, token.isTrivia = true)
    (solid : ∀ token ∈ target, token.isTrivia = false) : splitTrailer (target ++ trailer) = (target, trailer) := by
  have none : target.reverse.takeWhile Token.isTrivia = [] := by
    cases backwards : target.reverse with
    | nil => rfl
    | cons last others =>
      have member : last ∈ target := List.mem_reverse.mp (by rw [backwards]; exact List.mem_cons_self)
      exact List.takeWhile_cons_of_neg (by simp [solid last member])
  have behind : ((target ++ trailer).reverse.takeWhile Token.isTrivia).reverse = trailer := by
    rw [List.reverse_append, List.takeWhile_append_of_pos, none, List.append_nil, List.reverse_reverse]
    exact fun token member => trivial token (List.mem_reverse.mp member)
  rw [splitTrailer, behind, List.length_append, Nat.add_sub_cancel, List.take_left]

variable {header target trailer : List Token} {first : Token}

/-- Without an equals sign the header goes on as long as there are trivia and modifiers. -/
theorem ofTokens_append (noEquals : ∀ token ∈ header ++ (first :: target ++ trailer), token.isMark "=" = false)
    (leading : ∀ token ∈ header, (token.isTrivia || isModifier token) = true)
    (solid : ∀ token ∈ first :: target, token.isTrivia = false) (noModifier : isModifier first = false)
    (trivial : ∀ token ∈ trailer, token.isTrivia = true) :
    ofTokens (header ++ (first :: target ++ trailer)) = ⟨header, first :: target, trailer, false⟩ := by
  have before (token : Token) (member : token ∈ header ++ (first :: target ++ trailer)) :
      (!token.isMark "=") = true := by
    rw [noEquals token member]
    rfl
  have none : (header ++ (first :: target ++ trailer)).dropWhile (!·.isMark "=") = [] := by
    rw [← List.append_nil (header ++ _), List.dropWhile_append_of_pos before, List.dropWhile_nil]
  have stops : (first.isTrivia || isModifier first) = false := by
    rw [solid first List.mem_cons_self, noModifier]
    rfl
  unfold ofTokens
  rw [none]
  dsimp only
  rw [List.cons_append, dropWhile_append_cons leading stops, takeWhile_append_cons leading stops, ← List.cons_append,
    splitTrailer_append trivial solid]

theorem ofTokens_equals {gap : List Token} (noEquals : ∀ token ∈ header, token.isMark "=" = false)
    (leading : ∀ token ∈ gap, token.isTrivia = true) (solid : ∀ token ∈ first :: target, token.isTrivia = false)
    (trivial : ∀ token ∈ trailer, token.isTrivia = true) :
    ofTokens (header ++ .sign '=' :: (gap ++ (first :: target ++ trailer))) =
      ⟨header ++ .sign '=' :: gap, first :: target, trailer, true⟩ := by
  have before (token : Token) (member : token ∈ header) : (!token.isMark "=") = true := by
    rw [noEquals token member]
    rfl
  have stops := solid first List.mem_cons_self
  unfold ofTokens
  rw [takeWhile_append_cons before (by decide), dropWhile_append_cons before (by decide)]
  dsimp only
  rw [List.cons_append, dropWhile_append_cons leading stops, takeWhile_append_cons leading stops, ← List.cons_append,
    splitTrailer_append trivial solid]

end DirectiveBody

/-! ### Names -/

namespace Identifier

variable (name : Identifier)

theorem chars_ne {text : String} (keyword : text ∈ keywords) : name.chars ≠ text.toList := by
  unfold chars
  split
  · have letters : ∀ text ∈ keywords, text.toList.head? ≠ some '@' := by decide
    intro same
    exact letters text keyword (by rw [← same]; rfl)
  · rename_i plain
    intro same
    have free := name.free (eq_false_of_ne_true plain)
    rw [same, String.ofList_toList] at free
    exact free keyword

theorem isWord_eq_false {text : String} (keyword : text ∈ keywords) : name.token.isWord text = false := by
  have other : ¬ name.token.text = text.toList := name.chars_ne keyword
  simp [Token.isWord, other]

theorem isIdentifier : NameState.isIdentifier name.token = true := by
  have noNumber : name.chars.head?.any (fun c => '0' ≤ c && c ≤ '9') = false := by
    unfold chars
    split
    · rfl
    · rw [Option.any_eq_false_iff_get]
      intro some
      simpa using name.noNumber _ (Option.get_mem some)
  change (decide _ && !(name.chars.head?.any _)) = true
  rw [noNumber]
  rfl

end Identifier

namespace DottedName

variable {name : DottedName} {token : Token}

theorem isTrivia_eq_false (member : token ∈ name.tokens) : token.isTrivia = false := by
  rcases mem_tokens member with ⟨part, rfl⟩ | rfl
  · rfl
  · rfl

theorem isMark_eq_false (member : token ∈ name.tokens) : token.isMark "=" = false ∧ isSemicolon token = false := by
  rcases mem_tokens member with ⟨part, rfl⟩ | rfl
  · exact ⟨rfl, rfl⟩
  · decide

private theorem foldlM_parts (parts : List Identifier) :
    (parts.flatMap fun part => [Token.sign '.', part.token]).foldlM NameState.step .part = some .part := by
  induction parts with
  | nil => rfl
  | cons part parts ih =>
    have dot : NameState.step .part (.sign '.') = some .separator := by decide
    have next : NameState.step .separator part.token = some .part := if_pos part.isIdentifier
    rw [List.flatMap_cons, List.cons_append, List.singleton_append, List.foldlM_cons, dot]
    change (NameState.step .separator part.token >>= _) = _
    rw [next]
    exact ih

theorem isName_tokens (name : DottedName) : isName name.tokens = true := by
  have solid : name.tokens.filter (!·.isTrivia) = name.tokens := by
    apply List.filter_eq_self.mpr
    intro token member
    rw [isTrivia_eq_false member]
    rfl
  have first : NameState.step .separator name.first.token = some .part := if_pos name.first.isIdentifier
  rw [isName, solid, tokens, List.foldlM_cons, first]
  change Option.any _ (List.foldlM NameState.step .part _) = true
  rw [foldlM_parts]
  rfl

theorem textOf_tokens (name : DottedName) : textOf name.tokens = name.text := by
  rw [textOf, text, tokens, List.flatMap_cons, List.flatMap_assoc]
  simp [Token.sign, Identifier.token]

theorem textOf_tokens_ne (name : DottedName) : textOf name.tokens ≠ "" := by
  rw [textOf_tokens, text]
  intro empty
  have none := congrArg String.toList empty
  rw [String.toList_ofList] at none
  have chars := (List.append_eq_nil_iff.mp none).1
  unfold Identifier.chars at chars
  split at chars
  · cases chars
  · exact name.first.isWord.1 chars

theorem not_nameless (name : DottedName) :
    (namelessWords.any fun word => name.tokens.map Token.text = [word.toList]) = false := by
  rw [List.any_eq_false]
  intro word member same
  have keyword : ∀ word ∈ namelessWords, word ∈ keywords := by decide
  have first := (List.cons.inj (of_decide_eq_true same)).1
  exact name.first.chars_ne (keyword word member) first

end DottedName

/-! ### Reading directives -/

theorem IsGap.isTrivia {gap : List Token} (isGap : IsGap gap) : ∀ token ∈ gap, token.isTrivia = true := by
  intro token member
  unfold Token.isTrivia
  rcases isGap token member with kind | kind
  · rw [kind]
    rfl
  · rw [kind]
    rfl

theorem IsGap.filter_eq_nil {gap : List Token} (isGap : IsGap gap) : gap.filter (!·.isTrivia) = [] := by
  apply List.filter_eq_nil_iff.mpr
  intro token member
  rw [isGap.isTrivia token member]
  exact nofun

theorem Token.isMark_eq_false_of_ne {token : Token} (other : token.kind ≠ .mark) (text : String) :
    token.isMark text = false := by
  rw [isMark, decide_eq_false other, Bool.false_and]

theorem isMark_eq_false_of_trivia {token : Token} (trivial : token.isTrivia = true) (text : String) :
    token.isMark text = false := by
  apply Token.isMark_eq_false_of_ne
  intro mark
  rw [Token.isTrivia, mark] at trivial
  cases trivial

namespace DirectiveBody

variable {header trailer : List Token}

theorem isMark_eq_false_of_modifier {token : Token} (modifier : isModifier token = true) (text : String) :
    token.isMark text = false := by
  apply Token.isMark_eq_false_of_ne
  intro mark
  rw [isModifier, Token.isWord, Token.isWord, mark] at modifier
  cases modifier

/-- Trivia and modifiers in front of its target do not keep a directive from importing it. -/
theorem imports_ofHeader (name : DottedName) (leading : ∀ token ∈ header, (token.isTrivia || isModifier token) = true)
    (isGap : IsGap trailer) :
    let body := ofTokens (header ++ (name.tokens ++ trailer))
    body.isDirective = true ∧ body.node.importedName? = some name.text := by
  intro body
  have noEquals : ∀ token ∈ header ++ (name.tokens ++ trailer), token.isMark "=" = false := by
    intro token member
    rcases List.mem_append.mp member with front | back
    · rcases (Bool.or_eq_true _ _).mp (leading token front) with trivial | modifier
      · exact isMark_eq_false_of_trivia trivial "="
      · exact isMark_eq_false_of_modifier modifier "="
    · rcases List.mem_append.mp back with middle | behind
      · exact (DottedName.isMark_eq_false middle).1
      · exact isMark_eq_false_of_trivia (isGap.isTrivia token behind) "="
  have noModifier : isModifier name.first.token = false := by
    rw [isModifier, name.first.isWord_eq_false (by decide), name.first.isWord_eq_false (by decide)]
    rfl
  have parts : body = ⟨header, name.tokens, trailer, false⟩ :=
    ofTokens_append noEquals leading (fun _ => DottedName.isTrivia_eq_false) noModifier isGap.isTrivia
  rw [parts, ← name.textOf_tokens]
  exact ⟨name.isName_tokens, importedName?_node rfl name.textOf_tokens_ne isGap⟩

theorem imports_ofNewName (name : DottedName) (newName : Identifier) {before behind gap : List Token}
    (gapBefore : IsGap before) (gapBehind : IsGap behind) (leading : IsGap gap) (isGap : IsGap trailer) :
    let body := ofTokens ((before ++ newName.token :: behind) ++ .sign '=' :: (gap ++ (name.tokens ++ trailer)))
    body.isDirective = true ∧ body.node.importedName? = some name.text := by
  intro body
  have noEquals : ∀ token ∈ before ++ newName.token :: behind, token.isMark "=" = false := by
    refine List.forall_mem_append.mpr ⟨?_, List.forall_mem_cons.mpr ⟨rfl, ?_⟩⟩
    · exact fun token member => isMark_eq_false_of_trivia (gapBefore.isTrivia token member) "="
    · exact fun token member => isMark_eq_false_of_trivia (gapBehind.isTrivia token member) "="
  have parts : body = ⟨(before ++ newName.token :: behind) ++ .sign '=' :: gap, name.tokens, trailer, true⟩ :=
    ofTokens_equals noEquals leading.isTrivia (fun _ => DottedName.isTrivia_eq_false) isGap.isTrivia
  have renamed : isRenaming (before ++ newName.token :: behind) = true := by
    have solid : (before ++ newName.token :: behind).filter (!·.isTrivia) = [newName.token] := by
      rw [List.filter_append, gapBefore.filter_eq_nil, List.filter_cons_of_pos rfl, gapBehind.filter_eq_nil,
        List.nil_append]
    rw [isRenaming, solid]
    exact newName.isIdentifier
  have written (token : Token) (member : token ∈ before ++ newName.token :: behind) : (!token.isMark "=") = true := by
    rw [noEquals token member]
    rfl
  rw [parts, ← name.textOf_tokens]
  constructor
  · have some : name.tokens ≠ [] := List.cons_ne_nil _ _
    rw [isDirective, if_pos rfl, takeWhile_append_cons written (by decide), renamed, decide_eq_true some]
    rfl
  · refine importedName?_node ?_ name.textOf_tokens_ne isGap
    rw [isNameless, name.isName_tokens, name.not_nameless]
    rfl

end DirectiveBody

/-! ### Passing by -/

theorem Spaced.of_cons {group : List Token} {groups : List (List Token)} {tokens : List Token}
    (spaced : Spaced (group :: groups) tokens) :
    ∃ gap later, IsGap gap ∧ Spaced groups later ∧ tokens = gap ++ (group ++ later) := by
  cases spaced with
  | @group gap later _ _ isGap behind => exact ⟨gap, later, isGap, behind, rfl⟩

/-- Wherever the groups stand they are passed by, and the names are imported by them. -/
def Passes (groups : List (List Token)) (names : List String) : Prop :=
  ∀ rest tokens, Spaced (groups ++ rest) tokens → ∃ later, Spaced rest later ∧ namesOf tokens = names ++ namesOf later

namespace Passes

variable {groups others : List (List Token)} {names more : List String}

theorem nil : Passes [] [] := fun _ tokens spaced => ⟨tokens, spaced, rfl⟩

theorem append (first : Passes groups names) (second : Passes others more) :
    Passes (groups ++ others) (names ++ more) := by
  intro rest tokens spaced
  rw [List.append_assoc] at spaced
  obtain ⟨middle, between, same⟩ := first _ tokens spaced
  obtain ⟨later, behind, also⟩ := second rest middle between
  refine ⟨later, behind, ?_⟩
  rw [same, also, List.append_assoc]

theorem silent (silent : ∀ group ∈ groups, IsSilent group) : Passes groups [] := by
  induction groups with
  | nil => exact nil
  | cons group groups ih =>
    obtain ⟨here, later⟩ := List.forall_mem_cons.mp silent
    intro rest tokens spaced
    obtain ⟨gap, middle, isGap, between, rfl⟩ := spaced.of_cons
    obtain ⟨last, behind, same⟩ := ih later rest middle between
    refine ⟨last, behind, ?_⟩
    rw [namesOf_gap isGap, namesOf_append here, same]

theorem flatMap (parts : List α) {groupsOf : α → List (List Token)} {nameOf : α → String}
    (each : ∀ part, Passes (groupsOf part) [nameOf part]) : Passes (parts.flatMap groupsOf) (parts.map nameOf) := by
  induction parts with
  | nil => exact nil
  | cons part parts ih =>
    rw [List.flatMap_cons, List.map_cons, ← List.singleton_append]
    exact (each part).append ih

end Passes

theorem IsGap.isSemicolon_eq_false {gap : List Token} (isGap : IsGap gap) : ∀ token ∈ gap, isSemicolon token = false :=
  fun token member => isMark_eq_false_of_trivia (isGap.isTrivia token member) ";"

/-- What stands between the keyword of a directive and its semicolon is read as the directive. -/
theorem DirectiveForm.reads (form : DirectiveForm) (target : DottedName) {rest : List (List Token)}
    {tokens : List Token} (spaced : Spaced (form.groups ++ target.tokens :: [.sign ';'] :: rest) tokens) :
    ∃ inner later, Spaced rest later ∧ tokens = inner ++ .sign ';' :: later ∧
      (∀ token ∈ inner, isSemicolon token = false) ∧ (DirectiveBody.ofTokens inner).isDirective = true ∧
      (DirectiveBody.ofTokens inner).node.importedName? = some target.text := by
  have noSemicolon : ∀ token ∈ target.tokens, isSemicolon token = false :=
    fun token member => (DottedName.isMark_eq_false member).2
  cases form with
  | plain =>
    obtain ⟨front, _, isFront, toTarget, rfl⟩ := Spaced.of_cons spaced
    obtain ⟨back, later, isBack, behind, rfl⟩ := toTarget.of_cons
    have imports := DirectiveBody.imports_ofHeader target
      (fun token member => by rw [isFront.isTrivia token member]; rfl) isBack
    refine ⟨front ++ (target.tokens ++ back), later, behind, by simp, ?_, imports⟩
    simp only [List.forall_mem_append]
    exact ⟨isFront.isSemicolon_eq_false, noSemicolon, isBack.isSemicolon_eq_false⟩
  | static =>
    obtain ⟨front, _, isFront, toTarget, rfl⟩ := Spaced.of_cons spaced
    obtain ⟨middle, _, isMiddle, toEnd, rfl⟩ := toTarget.of_cons
    obtain ⟨back, later, isBack, behind, rfl⟩ := toEnd.of_cons
    have modifier : DirectiveBody.isModifier (.word "static") = true := by decide
    have leading : ∀ token ∈ front ++ .word "static" :: middle,
        (token.isTrivia || DirectiveBody.isModifier token) = true := by
      simp only [List.forall_mem_append, List.forall_mem_cons, Bool.or_eq_true]
      exact ⟨fun token member => .inl (isFront.isTrivia token member), .inr modifier,
        fun token member => .inl (isMiddle.isTrivia token member)⟩
    have imports := DirectiveBody.imports_ofHeader target leading isBack
    refine ⟨front ++ .word "static" :: middle ++ (target.tokens ++ back), later, behind, by simp, ?_, imports⟩
    simp only [List.forall_mem_append, List.forall_mem_cons]
    exact ⟨⟨isFront.isSemicolon_eq_false, rfl, isMiddle.isSemicolon_eq_false⟩, noSemicolon,
      isBack.isSemicolon_eq_false⟩
  | newName name =>
    obtain ⟨front, _, isFront, toSign, rfl⟩ := Spaced.of_cons spaced
    obtain ⟨middle, _, isMiddle, toTarget, rfl⟩ := Spaced.of_cons toSign
    obtain ⟨gap, _, isGap, toEnd, rfl⟩ := toTarget.of_cons
    obtain ⟨back, later, isBack, behind, rfl⟩ := toEnd.of_cons
    have imports := DirectiveBody.imports_ofNewName target name isFront isMiddle isGap isBack
    refine ⟨front ++ name.token :: middle ++ .sign '=' :: (gap ++ (target.tokens ++ back)), later, behind, by simp, ?_,
      imports⟩
    simp only [List.forall_mem_append, List.forall_mem_cons]
    exact ⟨⟨isFront.isSemicolon_eq_false, rfl, isMiddle.isSemicolon_eq_false⟩, by decide,
      isGap.isSemicolon_eq_false, noSemicolon, isBack.isSemicolon_eq_false⟩

theorem UsingDirective.passes (directive : UsingDirective) : Passes directive.groups [directive.target.text] := by
  intro rest tokens spaced
  rw [groups, List.cons_append, List.append_assoc] at spaced
  obtain ⟨gap, body, isGap, goesOn, rfl⟩ := Spaced.of_cons spaced
  obtain ⟨inner, later, behind, rfl, inside, isDirective, imported⟩ := directive.form.reads directive.target goesOn
  refine ⟨later, behind, ?_⟩
  rw [namesOf_gap isGap, List.singleton_append, namesOf_directive inside isDirective imported]
  rfl

theorem FileDirective.passes (directive : FileDirective) :
    Passes directive.groups [directive.directive.target.text] := by
  unfold groups
  split
  · exact (Passes.silent (by decide)).append directive.directive.passes
  · exact Passes.append .nil directive.directive.passes

theorem Identifier.isSilent (name : Identifier) : IsSilent [name.token] :=
  List.forall_mem_singleton.mpr (name.isWord_eq_false (by decide))

theorem DottedName.isSilent (name : DottedName) : IsSilent name.tokens := by
  intro token member
  rcases mem_tokens member with ⟨part, rfl⟩ | rfl
  · exact part.isWord_eq_false (by decide)
  · rfl

theorem StringField.isSilent (field : StringField) : ∀ group ∈ field.groups, IsSilent group := by
  have text : IsSilent [field.text.token] := List.forall_mem_singleton.mpr rfl
  simp only [groups, List.forall_mem_cons]
  exact ⟨by decide, field.name.isSilent, by decide, text, by decide, nofun⟩

mutual

theorem Member.passes : (member : Member) → Passes member.groups member.targets
  | .type name fields => by
    unfold Member.groups Member.targets
    apply Passes.silent
    simp only [List.forall_mem_cons, List.forall_mem_append]
    refine ⟨by decide, name.isSilent, by decide, ?_, by decide, nofun⟩
    intro group member
    obtain ⟨field, _, within⟩ := List.mem_flatMap.mp member
    exact field.isSilent group within
  | .block name directives members => by
    unfold Member.groups Member.targets
    have head : Passes [[.word "namespace"], name.tokens, [.sign '{']] [] := by
      apply Passes.silent
      simp only [List.forall_mem_cons]
      exact ⟨by decide, name.isSilent, by decide, nofun⟩
    have foot : Passes [[.sign '}']] [] := Passes.silent (by decide)
    have inner := (Passes.flatMap directives UsingDirective.passes).append ((passes_ofAll members).append foot)
    rw [List.append_nil] at inner
    exact head.append inner

theorem Member.passes_ofAll : (members : List Member) →
    Passes (Member.groupsOfAll members) (Member.targetsOfAll members)
  | [] => by
    unfold Member.groupsOfAll Member.targetsOfAll
    exact .nil
  | member :: rest => by
    unfold Member.groupsOfAll Member.targetsOfAll
    exact member.passes.append (passes_ofAll rest)

end

theorem Program.passes (program : Program) : Passes program.groups program.targets :=
  (Passes.flatMap program.directives FileDirective.passes).append (Member.passes_ofAll program.members)

theorem importsOfBytes_ofString (source : String) :
    importsOfBytes (Text.Utf8.ofString source) = namesOf (tokens source.toList) := by
  have root : (SyntaxTree.ofSource source.toList).kind ≠ .directive := nofun
  rw [importsOfBytes, Text.Utf8.decodeSkipping_ofString, SyntaxTree.imports, SyntaxTree.importsOfStack, if_neg root,
    List.append_nil]
  rfl

/-- From any spelling of a program the targets of its directives are imported, and nothing else. -/
theorem importsOfBytes_spelled (program : Program) {source : String} (spelled : program.SpelledAs source) :
    importsOfBytes (Text.Utf8.ofString source) = program.targets := by
  have spaced := spelled.spaced program.areGroups
  rw [← List.append_nil program.groups] at spaced
  obtain ⟨later, ends, same⟩ := program.passes [] _ spaced
  have nothing : namesOf later = [] := by
    cases ends with
    | done isGap => rw [← List.append_nil later, namesOf_gap isGap, namesOf_nil]
  rw [importsOfBytes_ofString, same, nothing, List.append_nil]

theorem forall_of_all {holds : Char → Prop} [DecidablePred holds] {cs : List Char}
    (all : cs.all (fun c => decide (holds c)) = true) : ∀ c ∈ cs, holds c :=
  fun c member => of_decide_eq_true (List.all_eq_true.mp all c member)

def oneLetter (c : Char) (isWord : IsWord [c]) (noNumber : ¬ ('0' ≤ c ∧ c ≤ '9'))
    (free : String.ofList [c] ∉ keywords) : Identifier where
  verbatim := false
  word := [c]
  isWord := isWord
  noNumber := by
    rintro _ ⟨⟩
    exact noNumber
  free _ := free

/-- A global directive, and a block with the same target under a new name and with a class. -/
def programSample : Program :=
  let a := oneLetter 'A' (by decide) (by decide) (by decide)
  let b := oneLetter 'B' (by decide) (by decide) (by decide)
  let name : DottedName := ⟨a, [b]⟩
  { directives := [⟨true, ⟨.plain, name⟩⟩]
    members := [.block ⟨b, []⟩ [⟨.newName a, name⟩] [.type a [⟨b, "using Z;".toList, forall_of_all (by decide +kernel)⟩]]] }

def programSampleSource : String :=
  "/* using X; */global using A.B // using Y;\n;namespace B\x7busing A=A.B;class A\x7bstring B=\"using Z;\";\x7d\x7d"

/-- The gaps in front of its groups. -/
def programSampleGaps : List (List Char) :=
  ["/* using X; */".toList, [' '], [' '], " // using Y;\n".toList, [], [' '], [], [], [' '], [], [], [], [], [' '], [],
    [], [' '], [], [], [], [], []]

theorem spelledAs_programSampleSource : programSample.SpelledAs programSampleSource := by
  have block : Gap "/* using X; */".toList := .block (by decide +kernel : ¬ ['*', '/'] <:+: " using X; ".toList) .nil
  have oneLine : ∀ c ∈ " using Y;".toList, c ≠ '\n' ∧ c ≠ '\r' := forall_of_all (by decide +kernel)
  have line : Gap " // using Y;\n".toList :=
    .blank rfl (.line oneLine (.inl rfl) .nil)
  have known : ∀ gap ∈ programSampleGaps, gap = [] ∨ gap = [' '] ∨ gap = "/* using X; */".toList ∨
      gap = " // using Y;\n".toList := by decide +kernel
  have gaps : ∀ piece ∈ programSampleGaps.zip programSample.groups, Gap piece.1 := by
    rintro ⟨gap, group⟩ member
    rcases known gap (List.of_mem_zip member).1 with rfl | rfl | rfl | rfl
    · exact .nil
    · exact .blank rfl .nil
    · exact block
    · exact line
  have spells := spells_spellOut gaps .nil (by decide +kernel)
  have groups : (programSampleGaps.zip programSample.groups).map Prod.snd = programSample.groups := by decide +kernel
  have source : spellOut (programSampleGaps.zip programSample.groups) [] = programSampleSource.toList := by
    decide +kernel
  rw [groups, source] at spells
  exact spells

/-- Comments may stand between a target and its semicolon, too. -/
theorem importsOfBytes_spelled_sample : programSample.SpelledAs programSampleSource ∧
    importsOfBytes (Text.Utf8.ofString programSampleSource) = ["A.B", "A.B"] := by
  have imported := importsOfBytes_spelled programSample spelledAs_programSampleSource
  exact ⟨spelledAs_programSampleSource, imported.trans (by decide +kernel)⟩

end UsingCensus.CSharp
