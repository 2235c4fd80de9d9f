import UsingCensus.CSharp.Token

namespace UsingCensus.CSharp

/-! ### Tokens -/

def IsWord (cs : List Char) : Prop := cs ≠ [] ∧ wordLength cs = cs.length

instance : DecidablePred IsWord := fun cs => inferInstanceAs (Decidable (cs ≠ [] ∧ wordLength cs = cs.length))

/-- Words, string literals and marks. -/
inductive Token.Proper : Token → Prop
  | word {cs : List Char} (isWord : IsWord cs) : Proper ⟨.word, cs⟩
  | verbatim {cs : List Char} (isWord : IsWord cs) : Proper ⟨.word, '@' :: cs⟩
  | literal {text : List Char} (plain : ∀ c ∈ text, c ≠ '"' ∧ c ≠ '\\' ∧ c ≠ '\n') :
      Proper ⟨.literal, '"' :: (text ++ ['"'])⟩
  | mark {c : Char} (sign : c ∈ ['{', '}', ';', '=', '.']) : Proper ⟨.mark, [c]⟩

/-- The token ends before what follows it: a word does not go on, and quotes are not doubled. -/
def Token.EndsBefore (token : Token) (rest : List Char) : Prop :=
  match token.kind with
  | .word => ∀ c ∈ rest.head?, isWordChar c = false ∧ c ≠ '\\'
  | .literal => rest.head? ≠ some '"'
  | _ => True

theorem Token.endsBefore_word_cons_iff {text rest : List Char} {c : Char} :
    (⟨.word, text⟩ : Token).EndsBefore (c :: rest) ↔ isWordChar c = false ∧ c ≠ '\\' := by
  constructor
  · exact fun ends => ends c rfl
  · rintro ends _ ⟨⟩
    exact ends

instance decidableEndsBefore : (token : Token) → (rest : List Char) → Decidable (token.EndsBefore rest)
  | ⟨.word, _⟩, [] => isTrue nofun
  | ⟨.word, _⟩, _ :: _ => decidable_of_iff _ Token.endsBefore_word_cons_iff.symm
  | ⟨.literal, _⟩, rest => inferInstanceAs (Decidable (rest.head? ≠ some '"'))
  | ⟨.blank, _⟩, _ => isTrue trivial
  | ⟨.comment, _⟩, _ => isTrue trivial
  | ⟨.line, _⟩, _ => isTrue trivial
  | ⟨.mark, _⟩, _ => isTrue trivial

theorem Token.endsBefore_blank (token : Token) {rest : List Char} (blank : ∀ c ∈ rest.head?, c = ' ') :
    token.EndsBefore rest := by
  unfold EndsBefore
  split
  · intro c start
    rw [blank c start]
    decide
  · intro quote
    exact absurd (blank '"' quote) (by decide)
  · trivial

theorem isSpace_eq_false {c : Char} (inWord : isWordChar c = true) : isSpace c = false := by
  by_cases space : isSpace c = true
  · exfalso
    have code : c.val.toNat = c.toNat := rfl
    have blank := space
    simp only [isSpace, Bool.or_eq_true, Bool.and_eq_true, decide_eq_true_eq, Char.le_def, UInt32.le_iff_toNat_le,
      ← Char.toNat_inj, code, Char.reduceToNat, Char.reduceVal, UInt32.reduceToNat] at blank
    simp only [isWordChar, space, Bool.or_eq_true, Bool.and_eq_true, decide_eq_true_eq, Char.le_def,
      UInt32.le_iff_toNat_le, ← Char.toNat_inj, code, Char.reduceToNat, Char.reduceVal, UInt32.reduceToNat,
      Bool.not_true, false_and, and_false, or_false, reduceCtorEq] at inWord
    omega
  · exact eq_false_of_ne_true space

theorem wordLength_cons {c : Char} (plain : c ≠ '\\') (rest : List Char) :
    wordLength (c :: rest) = if isWordChar c then 1 + wordLength rest else 0 := by
  rw [wordLength]
  · exact fun _ escape _ => plain escape
  · exact fun _ escape _ => plain escape

theorem wordLength_of_endsBefore {rest : List Char} (ends : ∀ c ∈ rest.head?, isWordChar c = false ∧ c ≠ '\\') :
    wordLength rest = 0 := by
  cases rest with
  | nil => rfl
  | cons c rest =>
    obtain ⟨other, plain⟩ := ends c rfl
    rw [wordLength_cons plain, other]
    rfl

theorem wordLength_append {cs rest : List Char} (whole : wordLength cs = cs.length)
    (ends : ∀ c ∈ rest.head?, isWordChar c = false ∧ c ≠ '\\') : wordLength (cs ++ rest) = cs.length := by
  fun_induction wordLength cs with
  | case1 cs ih =>
    rw [List.length_cons, List.length_cons] at whole ⊢
    rw [List.cons_append, List.cons_append, wordLength, ih (by omega)]
    omega
  | case2 cs ih =>
    rw [List.length_cons, List.length_cons] at whole ⊢
    rw [List.cons_append, List.cons_append, wordLength, ih (by omega)]
    omega
  | case3 c cs _ _ inWord ih =>
    have plain : c ≠ '\\' := by
      rintro rfl
      exact absurd inWord (by decide)
    rw [List.length_cons] at whole ⊢
    rw [List.cons_append, wordLength_cons plain, if_pos inWord, ih (by omega)]
    omega
  | case4 c cs => cases whole
  | case5 => exact wordLength_of_endsBefore ends

theorem tokens_cons {c : Char} {rest : List Char} {kind : TokenKind} {more : Nat}
    (starts : Lexeme.ofChars c rest = .plain kind more) :
    tokens (c :: rest) = ⟨kind, c :: rest.take more⟩ :: tokens (rest.drop more) := by
  have cut : Cut.next [] c rest = ⟨kind, more, []⟩ := by
    rw [Cut.next, starts]
    rfl
  rw [tokens, tokensFrom, cut]
  rfl

theorem tokens_cons_append {c : Char} (text : List Char) {rest : List Char} {kind : TokenKind}
    (starts : Lexeme.ofChars c (text ++ rest) = .plain kind text.length) :
    tokens (c :: (text ++ rest)) = ⟨kind, c :: text⟩ :: tokens rest := by
  rw [tokens_cons starts, List.take_left, List.drop_left]

theorem start_of_word {c : Char} {rest : List Char} (word : wordLength (c :: rest) ≠ 0) :
    isWordChar c = true ∨ c = '\\' := by
  by_cases plain : c = '\\'
  · exact .inr plain
  · rw [wordLength_cons plain] at word
    exact .inl (Decidable.byContradiction fun other => word (if_neg other))

theorem visible_of_word {c : Char} {rest : List Char} (word : wordLength (c :: rest) ≠ 0) : isSpace c = false := by
  rcases start_of_word word with inWord | rfl
  · exact isSpace_eq_false inWord
  · rfl

theorem ofChars_of_word {c : Char} {rest : List Char} (word : wordLength (c :: rest) ≠ 0) :
    Lexeme.ofChars c rest = .plain .word (wordLength (c :: rest) - 1) := by
  have other {d : Char} (sign : isWordChar d = false ∧ d ≠ '\\') : c ≠ d := by
    rintro rfl
    rcases start_of_word word with inWord | escape
    · rw [sign.1] at inWord
      cases inWord
    · exact sign.2 escape
  unfold Lexeme.ofChars
  rw [visible_of_word word, if_neg Bool.false_ne_true, if_neg (other (by decide)), if_neg (other (by decide)),
    if_neg (other (by decide)), if_neg (other (by decide)), if_neg (other (by decide)), if_neg (other (by decide)),
    if_pos word]

theorem ofAt_of_word {rest : List Char} (word : wordLength rest ≠ 0) :
    Lexeme.ofAt rest = .plain .word (wordLength rest) := by
  unfold Lexeme.ofAt
  split
  · exact absurd rfl word
  · exact absurd rfl word
  · exact if_neg word

theorem regular_cons {c : Char} (plain : c ≠ '"' ∧ c ≠ '\\' ∧ c ≠ '\n') {rest : List Char}
    (single : ¬ (c = '{' ∧ rest.head? = some '{')) :
    Stretch.regular false (c :: rest) = (Stretch.regular false rest).after 1 := by
  by_cases brace : c = '{'
  · subst brace
    rw [Stretch.regular]
    · rfl
    · rintro more rfl
      exact single ⟨rfl, rfl⟩
  · rw [Stretch.regular]
    · exact plain.1
    · exact plain.2.2
    · exact fun _ escape _ => plain.2.1 escape
    · exact fun _ _ escape _ => plain.2.1 escape
    · exact fun _ double _ => brace double
    · exact brace

/-- Plain text goes on to the next quote. Doubled braces are taken two at a time. -/
theorem regular_append (rest : List Char) (text : List Char) (plain : ∀ c ∈ text, c ≠ '"' ∧ c ≠ '\\' ∧ c ≠ '\n') :
    Stretch.regular false (text ++ '"' :: rest) = ⟨text.length + 1, .closed⟩ := by
  match text with
  | [] => rfl
  | [c] =>
    have single : ¬ (c = '{' ∧ ('"' :: rest).head? = some '{') := fun both => nomatch both.2
    rw [List.singleton_append, regular_cons (plain c List.mem_cons_self) single]
    rfl
  | c :: d :: text =>
    obtain ⟨here, next, later⟩ : _ ∧ _ ∧ ∀ c ∈ text, c ≠ '"' ∧ c ≠ '\\' ∧ c ≠ '\n' := by
      simpa only [List.forall_mem_cons] using plain
    by_cases doubled : c = '{' ∧ d = '{'
    · obtain ⟨rfl, rfl⟩ := doubled
      rw [List.cons_append, List.cons_append, Stretch.regular, regular_append rest text later, Stretch.after]
      simp only [List.length_cons]
      congr 1
      omega
    · have single : ¬ (c = '{' ∧ (d :: text ++ '"' :: rest).head? = some '{') :=
        fun both => doubled ⟨both.1, Option.some.inj both.2⟩
      rw [List.cons_append, regular_cons here single,
        regular_append rest (d :: text) (List.forall_mem_cons.mpr ⟨next, later⟩), Stretch.after]
      simp only [List.length_cons]
      congr 1
      omega
termination_by text.length

/-- A proper token is cut from what it ends before. -/
theorem Token.Proper.tokens_append {token : Token} {rest : List Char} (proper : token.Proper)
    (ends : token.EndsBefore rest) : tokens (token.text ++ rest) = token :: tokens rest := by
  cases proper with
  | @word cs isWord =>
    obtain ⟨c, text, rfl⟩ := List.exists_cons_of_ne_nil isWord.1
    have length : wordLength (c :: (text ++ rest)) = (c :: text).length := wordLength_append isWord.2 ends
    have word : wordLength (c :: (text ++ rest)) ≠ 0 := by
      rw [length]
      exact nofun
    apply tokens_cons_append
    rw [ofChars_of_word word, length]
    rfl
  | @verbatim cs isWord =>
    have length : wordLength (cs ++ rest) = cs.length := wordLength_append isWord.2 ends
    have filled : wordLength (cs ++ rest) ≠ 0 := by
      rw [length]
      exact fun empty => isWord.1 (List.length_eq_zero_iff.mp empty)
    apply tokens_cons_append
    rw [← length]
    exact ofAt_of_word filled
  | @literal text plain =>
    have length : Stretch.regular false (text ++ ['"'] ++ rest) = ⟨text.length + 1, .closed⟩ := by
      rw [List.append_assoc]
      exact regular_append rest text plain
    have single : ((text ++ ['"'] ++ rest).takeWhile (· = '"')).length < 2 := by
      cases text with
      | nil =>
        cases rest with
        | nil => decide
        | cons c rest =>
          have other : c ≠ '"' := fun same => ends (by rw [same]; rfl)
          simp [other]
      | cons c text =>
        have other := (plain c List.mem_cons_self).1
        simp [other]
    apply tokens_cons_append
    change Lexeme.ofQuote _ = _
    rw [Lexeme.ofQuote, if_pos single, length, List.length_append]
    rfl
  | @mark c sign =>
    change tokens (c :: ([] ++ rest)) = _
    apply tokens_cons_append
    simp only [List.mem_cons, List.not_mem_nil, or_false] at sign
    rcases sign with rfl | rfl | rfl | rfl | rfl <;> rfl

/-! ### Gaps -/

inductive Gap : List Char → Prop
  | nil : Gap []
  | blank {c : Char} {rest : List Char} (space : isSpace c = true) (gap : Gap rest) : Gap (c :: rest)
  | line {text rest : List Char} {ending : Char} (oneLine : ∀ c ∈ text, c ≠ '\n' ∧ c ≠ '\r')
      (ended : ending = '\n' ∨ ending = '\r') (gap : Gap rest) : Gap ('/' :: '/' :: (text ++ ending :: rest))
  | block {text rest : List Char} (unclosed : ¬ ['*', '/'] <:+: text) (gap : Gap rest) :
      Gap ('/' :: '*' :: (text ++ '*' :: '/' :: rest))

/-- Tokens that leave nothing behind but comments. -/
def IsGap (tokens : List Token) : Prop := ∀ token ∈ tokens, token.kind = .blank ∨ token.kind = .comment

namespace IsGap

variable {gap : List Token}

theorem nil : IsGap [] := nofun

theorem blank (isGap : IsGap gap) (text : List Char) : IsGap (⟨.blank, text⟩ :: gap) :=
  List.forall_mem_cons.mpr ⟨.inl rfl, isGap⟩

theorem comment (isGap : IsGap gap) (text : List Char) : IsGap (⟨.comment, text⟩ :: gap) :=
  List.forall_mem_cons.mpr ⟨.inr rfl, isGap⟩

end IsGap

theorem tokens_blank {c : Char} (space : isSpace c = true) (rest : List Char) :
    tokens (c :: rest) = ⟨.blank, c :: rest.takeWhile isSpace⟩ :: tokens (rest.dropWhile isSpace) := by
  have parts : rest.takeWhile isSpace ++ rest.dropWhile isSpace = rest := List.takeWhile_append_dropWhile
  have starts : Lexeme.ofChars c rest = .plain .blank (rest.takeWhile isSpace).length := if_pos space
  calc tokens (c :: rest)
      = tokens (c :: (rest.takeWhile isSpace ++ rest.dropWhile isSpace)) := by rw [parts]
    _ = _ := tokens_cons_append _ (by rw [parts, starts])

theorem tokens_line {text : List Char} (rest : List Char) (oneLine : ∀ c ∈ text, c ≠ '\n' ∧ c ≠ '\r')
    (ended : ∀ c ∈ rest.head?, c = '\n' ∨ c = '\r') :
    tokens ('/' :: '/' :: (text ++ rest)) = ⟨.comment, '/' :: '/' :: text⟩ :: tokens rest := by
  have none : rest.takeWhile (fun c => c ≠ '\n' && c ≠ '\r') = [] := by
    cases rest with
    | nil => rfl
    | cons c rest => rcases ended c rfl with rfl | rfl <;> rfl
  have line : (text ++ rest).takeWhile (fun c => c ≠ '\n' && c ≠ '\r') = text := by
    rw [List.takeWhile_append_of_pos, none, List.append_nil]
    intro c member
    simpa using oneLine c member
  have starts : Lexeme.ofChars '/' ('/' :: (text ++ rest)) = .plain .comment ('/' :: text).length := by
    change Lexeme.plain .comment _ = _
    rw [line, List.length_cons, Nat.add_comm]
  exact tokens_cons_append ('/' :: text) starts

theorem blockLength_append {text : List Char} (unclosed : ¬ ['*', '/'] <:+: text) (rest : List Char) :
    blockLength (text ++ '*' :: '/' :: rest) = text.length + 2 := by
  induction text with
  | nil => rfl
  | cons c text ih =>
    have inner : ¬ ['*', '/'] <:+: text := fun closed => unclosed (closed.trans (List.suffix_cons c text).isInfix)
    rw [List.cons_append, blockLength, ih inner, List.length_cons]
    · omega
    · rintro more rfl same
      cases text with
      | nil => cases same
      | cons d text =>
        cases same
        exact unclosed ⟨[], text, rfl⟩

theorem tokens_block {text : List Char} (unclosed : ¬ ['*', '/'] <:+: text) (rest : List Char) :
    tokens ('/' :: '*' :: (text ++ '*' :: '/' :: rest)) =
      ⟨.comment, '/' :: '*' :: (text ++ ['*', '/'])⟩ :: tokens rest := by
  have whole : '*' :: (text ++ '*' :: '/' :: rest) = '*' :: (text ++ ['*', '/']) ++ rest := by simp
  rw [whole]
  apply tokens_cons_append
  rw [← whole]
  change Lexeme.plain .comment _ = _
  rw [blockLength_append unclosed, List.length_cons, List.length_append, Nat.add_comm]
  rfl

/-- A gap is cut into trivia. So is what is left of it after its first blanks: the induction needs both, since the
blanks of several steps are one token. -/
theorem Gap.tokens_append {gap : List Char} (isGap : Gap gap) (rest : List Char)
    (visible : rest.dropWhile isSpace = rest) :
    (∃ front, IsGap front ∧ tokens (gap ++ rest) = front ++ tokens rest) ∧
      ∃ front, IsGap front ∧ tokens ((gap ++ rest).dropWhile isSpace) = front ++ tokens rest := by
  induction isGap with
  | nil =>
    refine ⟨⟨[], .nil, rfl⟩, [], .nil, ?_⟩
    rw [List.nil_append, visible, List.nil_append]
  | @blank c gap space _ ih =>
    obtain ⟨_, front, trivia, cut⟩ := ih
    constructor
    · refine ⟨⟨.blank, c :: (gap ++ rest).takeWhile isSpace⟩ :: front, trivia.blank _, ?_⟩
      rw [List.cons_append, tokens_blank space, cut, List.cons_append]
    · refine ⟨front, trivia, ?_⟩
      rw [List.cons_append, List.dropWhile_cons_of_pos space, cut]
  | @line text gap ending oneLine ended _ ih =>
    obtain ⟨_, front, trivia, cut⟩ := ih
    have space : isSpace ending = true := by rcases ended with rfl | rfl <;> rfl
    have whole : tokens ('/' :: '/' :: (text ++ ending :: gap) ++ rest) = ⟨.comment, '/' :: '/' :: text⟩ ::
        ⟨.blank, ending :: (gap ++ rest).takeWhile isSpace⟩ :: front ++ tokens rest := by
      rw [List.cons_append, List.cons_append, List.append_assoc, List.cons_append,
        tokens_line _ oneLine (by rintro _ ⟨⟩; exact ended), tokens_blank space, cut]
      rfl
    have inside := (trivia.blank (ending :: (gap ++ rest).takeWhile isSpace)).comment ('/' :: '/' :: text)
    exact ⟨⟨_, inside, whole⟩, _, inside, whole⟩
  | @block text gap unclosed _ ih =>
    obtain ⟨⟨front, trivia, cut⟩, _⟩ := ih
    have whole : tokens ('/' :: '*' :: (text ++ '*' :: '/' :: gap) ++ rest) =
        ⟨.comment, '/' :: '*' :: (text ++ ['*', '/'])⟩ :: front ++ tokens rest := by
      rw [List.cons_append, List.cons_append, List.append_assoc, List.cons_append, List.cons_append,
        tokens_block unclosed, cut]
      rfl
    exact ⟨⟨_, trivia.comment _, whole⟩, _, trivia.comment _, whole⟩

/-! ### Spelling -/

/-- The tokens stand side by side, and each of them ends there. -/
def Joined : List Token → List Char → Prop
  | [], _ => True
  | token :: more, rest => token.EndsBefore (more.flatMap Token.text ++ rest) ∧ Joined more rest

instance decidableJoined : (group : List Token) → (rest : List Char) → Decidable (Joined group rest)
  | [], _ => isTrue trivial
  | token :: more, rest =>
    have := decidableJoined more rest
    inferInstanceAs (Decidable (token.EndsBefore (more.flatMap Token.text ++ rest) ∧ Joined more rest))

/-- A source spells groups of tokens: between them there are gaps, but not inside them. A line comment at the end of the
source needs no line break. -/
inductive Spells : List (List Token) → List Char → Prop
  | done {gap : List Char} (isGap : Gap gap) : Spells [] gap
  | comment {gap text : List Char} (isGap : Gap gap) (oneLine : ∀ c ∈ text, c ≠ '\n' ∧ c ≠ '\r') :
      Spells [] (gap ++ '/' :: '/' :: text)
  | group {gap rest : List Char} {group : List Token} {groups : List (List Token)} (isGap : Gap gap)
      (joined : Joined group rest) (later : Spells groups rest) :
      Spells (group :: groups) (gap ++ (group.flatMap Token.text ++ rest))

/-- Tokens that are groups with gaps between them. -/
inductive Spaced : List (List Token) → List Token → Prop
  | done {gap : List Token} (isGap : IsGap gap) : Spaced [] gap
  | group {gap rest : List Token} {group : List Token} {groups : List (List Token)} (isGap : IsGap gap)
      (later : Spaced groups rest) : Spaced (group :: groups) (gap ++ (group ++ rest))

/-- A group has tokens, they are proper, and in front of a blank they stand side by side. -/
structure IsGroup (group : List Token) : Prop where
  filled : group ≠ []
  proper : ∀ token ∈ group, token.Proper
  joined (rest : List Char) (blank : ∀ c ∈ rest.head?, c = ' ') : Joined group rest

def AreGroups (groups : List (List Token)) : Prop := ∀ group ∈ groups, IsGroup group

namespace AreGroups

variable {group : List Token} {groups others : List (List Token)}

theorem nil : AreGroups [] := nofun

theorem cons (here : IsGroup group) (later : AreGroups groups) : AreGroups (group :: groups) :=
  List.forall_mem_cons.mpr ⟨here, later⟩

theorem append (first : AreGroups groups) (second : AreGroups others) : AreGroups (groups ++ others) :=
  List.forall_mem_append.mpr ⟨first, second⟩

theorem flatMap {parts : List α} {groupsOf : α → List (List Token)} (each : ∀ part, AreGroups (groupsOf part)) :
    AreGroups (parts.flatMap groupsOf) := by
  intro group member
  obtain ⟨part, _, within⟩ := List.mem_flatMap.mp member
  exact each part group within

end AreGroups

theorem tokens_append {group : List Token} {rest : List Char} (proper : ∀ token ∈ group, token.Proper)
    (joined : Joined group rest) : tokens (group.flatMap Token.text ++ rest) = group ++ tokens rest := by
  induction group with
  | nil => rfl
  | cons token group ih =>
    obtain ⟨here, later⟩ := List.forall_mem_cons.mp proper
    rw [List.flatMap_cons, List.append_assoc, here.tokens_append joined.1, ih later joined.2, List.cons_append]

theorem Token.Proper.visible {token : Token} (proper : token.Proper) (rest : List Char) :
    (token.text ++ rest).dropWhile isSpace = token.text ++ rest := by
  have blankless {c : Char} (visible : isSpace c = false) (cs : List Char) :
      (c :: cs).dropWhile isSpace = c :: cs := List.dropWhile_cons_of_neg (by rw [visible]; exact nofun)
  cases proper with
  | @word cs isWord =>
    obtain ⟨c, cs, rfl⟩ := List.exists_cons_of_ne_nil isWord.1
    have word : wordLength (c :: cs) ≠ 0 := by
      rw [isWord.2]
      exact nofun
    exact blankless (visible_of_word word) _
  | verbatim _ => rfl
  | literal _ => rfl
  | mark sign =>
    simp only [List.mem_cons, List.not_mem_nil, or_false] at sign
    rcases sign with rfl | rfl | rfl | rfl | rfl <;> rfl

/-- What spells groups is cut into these groups. -/
theorem Spells.spaced {groups : List (List Token)} {source : List Char} (spells : Spells groups source)
    (proper : AreGroups groups) : Spaced groups (tokens source) := by
  induction spells with
  | @done gap isGap =>
    obtain ⟨⟨front, trivia, cut⟩, _⟩ := isGap.tokens_append [] rfl
    have empty : tokens [] = [] := by rw [tokens, tokensFrom]
    rw [List.append_nil, empty, List.append_nil] at cut
    exact cut ▸ .done trivia
  | @comment gap text isGap oneLine =>
    obtain ⟨⟨front, trivia, cut⟩, _⟩ := isGap.tokens_append ('/' :: '/' :: text) rfl
    have line := tokens_line [] oneLine nofun
    have empty : tokens [] = [] := by rw [tokens, tokensFrom]
    rw [List.append_nil, empty] at line
    rw [cut, line]
    apply Spaced.done
    intro token member
    rcases List.mem_append.mp member with before | last
    · exact trivia token before
    · rw [List.mem_singleton.mp last]
      exact .inr rfl
  | @group gap rest group groups isGap joined _ ih =>
    obtain ⟨⟨filled, tokensProper, _⟩, later⟩ := List.forall_mem_cons.mp proper
    have visible : (group.flatMap Token.text ++ rest).dropWhile isSpace = group.flatMap Token.text ++ rest := by
      obtain ⟨token, more, rfl⟩ := List.exists_cons_of_ne_nil filled
      rw [List.flatMap_cons, List.append_assoc]
      exact (tokensProper token List.mem_cons_self).visible _
    obtain ⟨⟨front, trivia, cut⟩, _⟩ := isGap.tokens_append _ visible
    rw [cut, tokens_append tokensProper joined]
    exact .group trivia (ih later)

/-! ### Spelling out -/

/-- Groups with the gaps in front of them, and the gap behind the last one. -/
def spellOut (pieces : List (List Char × List Token)) (closing : List Char) : List Char :=
  match pieces with
  | [] => closing
  | (gap, group) :: more => gap ++ (group.flatMap Token.text ++ spellOut more closing)

/-- Each group is joined before what is spelled out behind it. -/
def AllJoined (pieces : List (List Char × List Token)) (closing : List Char) : Prop :=
  match pieces with
  | [] => True
  | (_, group) :: more => Joined group (spellOut more closing) ∧ AllJoined more closing

instance decidableAllJoined : (pieces : List (List Char × List Token)) → (closing : List Char) →
    Decidable (AllJoined pieces closing)
  | [], _ => isTrue trivial
  | (_, group) :: more, closing =>
    have := decidableAllJoined more closing
    inferInstanceAs (Decidable (Joined group (spellOut more closing) ∧ AllJoined more closing))

theorem spells_spellOut {pieces : List (List Char × List Token)} {closing : List Char}
    (gaps : ∀ piece ∈ pieces, Gap piece.1) (closes : Gap closing) (joined : AllJoined pieces closing) :
    Spells (pieces.map Prod.snd) (spellOut pieces closing) := by
  induction pieces with
  | nil => exact .done closes
  | cons piece pieces ih =>
    obtain ⟨here, later⟩ := List.forall_mem_cons.mp gaps
    exact .group here joined.1 (ih later joined.2)

/-- With a blank in front of each of them groups are spelled out. -/
theorem AreGroups.exists_spells {groups : List (List Token)} (areGroups : AreGroups groups) :
    ∃ source, Spells groups source := by
  have blanks (groups : List (List Token)) :
      ∀ c ∈ (spellOut (groups.map fun group => ([' '], group)) []).head?, c = ' ' := by
    cases groups with
    | nil => nofun
    | cons group groups =>
      rintro c ⟨⟩
      rfl
  have joined : AllJoined (groups.map fun group => ([' '], group)) [] := by
    induction groups with
    | nil => trivial
    | cons group groups ih =>
      obtain ⟨here, later⟩ := List.forall_mem_cons.mp areGroups
      exact ⟨here.joined _ (blanks groups), ih later⟩
  have gaps : ∀ piece ∈ groups.map fun group => ([' '], group), Gap piece.1 := by
    intro piece member
    obtain ⟨group, _, rfl⟩ := List.mem_map.mp member
    exact .blank rfl .nil
  have spells := spells_spellOut gaps .nil joined
  rw [List.map_map] at spells
  exact ⟨_, (List.map_id groups) ▸ spells⟩

end UsingCensus.CSharp
