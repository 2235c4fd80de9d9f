import UsingCensus.Proofs.SpelledTokens
import UsingCensus.CSharp.Directive

namespace UsingCensus.CSharp

/-- Words that are no identifiers: those of the language, and the contextual ones that stand for types. -/
def keywords : List String :=
  ["abstract", "as", "base", "bool", "break", "byte", "case", "catch", "char", "checked", "class", "const", "continue",
    "decimal", "default", "delegate", "do", "double", "else", "enum", "event", "explicit", "extern", "false", "finally",
    "fixed", "float", "for", "foreach", "goto", "if", "implicit", "in", "int", "interface", "internal", "is", "lock",
    "long", "namespace", "new", "null", "object", "operator", "out", "override", "params", "private", "protected",
    "public", "readonly", "ref", "return", "sbyte", "sealed", "short", "sizeof", "stackalloc", "static", "string",
    "struct", "switch", "this", "throw", "true", "try", "typeof", "uint", "ulong", "unchecked", "unsafe", "ushort",
    "using", "virtual", "void", "volatile", "while", "nint", "nuint", "var"]

/-- A word that does not start with a digit. With an at sign in front of it it may be a keyword. -/
structure Identifier where
  verbatim : Bool
  word : List Char
  isWord : IsWord word
  noNumber : ∀ c ∈ word.head?, ¬ ('0' ≤ c ∧ c ≤ '9')
  free : verbatim = false → String.ofList word ∉ keywords

/-- Identifiers between dots. -/
structure DottedName where
  first : Identifier
  more : List Identifier

/-- Text on one line, without quotes and escapes. -/
structure LiteralText where
  chars : List Char
  plain : ∀ c ∈ chars, c ≠ '"' ∧ c ≠ '\\' ∧ c ≠ '\n'

inductive DirectiveForm where
  | plain
  | static
  | newName (name : Identifier)

structure UsingDirective where
  form : DirectiveForm
  target : DottedName

/-- A field that holds a string. -/
structure StringField where
  name : Identifier
  text : LiteralText

inductive Member where
  | type (name : Identifier) (fields : List StringField)
  | block (name : DottedName) (directives : List UsingDirective) (members : List Member)

/-- A directive of a whole file. -/
structure FileDirective where
  isGlobal : Bool
  directive : UsingDirective

structure Program where
  directives : List FileDirective
  members : List Member

/-! ### Tokens -/

namespace Token

def word (text : String) : Token := ⟨.word, text.toList⟩

def sign (c : Char) : Token := ⟨.mark, [c]⟩

end Token

def Identifier.chars (name : Identifier) : List Char := if name.verbatim then '@' :: name.word else name.word

def Identifier.token (name : Identifier) : Token := ⟨.word, name.chars⟩

namespace DottedName

def tokens (name : DottedName) : List Token :=
  name.first.token :: name.more.flatMap fun part => [.sign '.', part.token]

/-- The name as it is counted. -/
def text (name : DottedName) : String :=
  String.ofList (name.first.chars ++ name.more.flatMap fun part => '.' :: part.chars)

end DottedName

def LiteralText.token (text : LiteralText) : Token := ⟨.literal, '"' :: (text.chars ++ ['"'])⟩

def DirectiveForm.groups : DirectiveForm → List (List Token)
  | plain => []
  | static => [[.word "static"]]
  | newName name => [[name.token], [.sign '=']]

def UsingDirective.groups (directive : UsingDirective) : List (List Token) :=
  [.word "using"] :: (directive.form.groups ++ [directive.target.tokens, [.sign ';']])

def StringField.groups (field : StringField) : List (List Token) :=
  [[.word "string"], [field.name.token], [.sign '='], [field.text.token], [.sign ';']]

mutual

def Member.groups : Member → List (List Token)
  | .type name fields =>
    [.word "class"] :: [name.token] :: [.sign '{'] :: (fields.flatMap StringField.groups ++ [[.sign '}']])
  | .block name directives members =>
    [.word "namespace"] :: name.tokens :: [.sign '{'] ::
      (directives.flatMap UsingDirective.groups ++ (Member.groupsOfAll members ++ [[.sign '}']]))

def Member.groupsOfAll : List Member → List (List Token)
  | [] => []
  | member :: rest => member.groups ++ groupsOfAll rest

end

def FileDirective.groups (directive : FileDirective) : List (List Token) :=
  (if directive.isGlobal then [[.word "global"]] else []) ++ directive.directive.groups

namespace Program

def groups (program : Program) : List (List Token) :=
  program.directives.flatMap FileDirective.groups ++ Member.groupsOfAll program.members

/-- The source is a spelling of the program. -/
def SpelledAs (program : Program) (source : String) : Prop := Spells program.groups source.toList

end Program

/-! ### Targets -/

mutual

/-- The targets of the directives in a member, from the first one to the last. -/
def Member.targets : Member → List String
  | .type _ _ => []
  | .block _ directives members =>
    directives.map (fun directive => directive.target.text) ++ Member.targetsOfAll members

def Member.targetsOfAll : List Member → List String
  | [] => []
  | member :: rest => member.targets ++ targetsOfAll rest

end

def Program.targets (program : Program) : List String :=
  program.directives.map (fun directive => directive.directive.target.text) ++ Member.targetsOfAll program.members

/-! ### Groups -/

theorem isGroup_single {token : Token} (proper : token.Proper) : IsGroup [token] where
  filled := List.cons_ne_nil _ _
  proper := List.forall_mem_singleton.mpr proper
  joined _ blank := ⟨token.endsBefore_blank blank, trivial⟩

theorem isGroup_word {text : String} (isWord : IsWord text.toList) : IsGroup [.word text] :=
  isGroup_single (.word isWord)

theorem isGroup_sign {c : Char} (sign : c ∈ ['{', '}', ';', '=', '.']) : IsGroup [.sign c] :=
  isGroup_single (.mark sign)

theorem Identifier.proper (name : Identifier) : name.token.Proper := by
  obtain ⟨verbatim, word, isWord, _, _⟩ := name
  cases verbatim with
  | false => exact .word isWord
  | true => exact .verbatim isWord

theorem Identifier.isGroup (name : Identifier) : IsGroup [name.token] := isGroup_single name.proper

theorem LiteralText.isGroup (text : LiteralText) : IsGroup [text.token] := isGroup_single (.literal text.plain)

theorem DottedName.mem_tokens {name : DottedName} {token : Token} (member : token ∈ name.tokens) :
    (∃ part : Identifier, token = part.token) ∨ token = .sign '.' := by
  unfold tokens at member
  rcases List.mem_cons.mp member with rfl | later
  · exact .inl ⟨_, rfl⟩
  · obtain ⟨part, _, here⟩ := List.mem_flatMap.mp later
    rcases List.mem_cons.mp here with rfl | last
    · exact .inr rfl
    · exact .inl ⟨part, List.mem_singleton.mp last⟩

theorem DottedName.joined (name : DottedName) (rest : List Char) (blank : ∀ c ∈ rest.head?, c = ' ') :
    Joined name.tokens rest := by
  obtain ⟨first, more⟩ := name
  unfold tokens
  induction more generalizing first with
  | nil => exact ⟨first.token.endsBefore_blank blank, trivial⟩
  | cons part more ih =>
    refine ⟨?_, trivial, ih part⟩
    rintro c ⟨⟩
    decide

theorem DottedName.isGroup (name : DottedName) : IsGroup name.tokens where
  filled := List.cons_ne_nil _ _
  proper := by
    intro token member
    rcases mem_tokens member with ⟨part, rfl⟩ | rfl
    · exact part.proper
    · exact .mark (by decide)
  joined := name.joined

theorem DirectiveForm.areGroups (form : DirectiveForm) : AreGroups form.groups := by
  cases form with
  | plain => exact .nil
  | static => exact .cons (isGroup_word (by decide)) .nil
  | newName name => exact .cons name.isGroup (.cons (isGroup_sign (by decide)) .nil)

theorem UsingDirective.areGroups (directive : UsingDirective) : AreGroups directive.groups :=
  .cons (isGroup_word (by decide))
    (directive.form.areGroups.append (.cons directive.target.isGroup (.cons (isGroup_sign (by decide)) .nil)))

theorem FileDirective.areGroups (directive : FileDirective) : AreGroups directive.groups := by
  unfold groups
  split
  · exact AreGroups.append (.cons (isGroup_word (by decide)) .nil) directive.directive.areGroups
  · exact AreGroups.append .nil directive.directive.areGroups

theorem StringField.areGroups (field : StringField) : AreGroups field.groups :=
  .cons (isGroup_word (by decide)) (.cons field.name.isGroup (.cons (isGroup_sign (by decide))
    (.cons field.text.isGroup (.cons (isGroup_sign (by decide)) .nil))))

mutual

theorem Member.areGroups : (member : Member) → AreGroups member.groups
  | .type name fields => by
    unfold Member.groups
    exact .cons (isGroup_word (by decide)) (.cons name.isGroup (.cons (isGroup_sign (by decide))
      ((AreGroups.flatMap StringField.areGroups).append (.cons (isGroup_sign (by decide)) .nil))))
  | .block name directives members => by
    unfold Member.groups
    exact .cons (isGroup_word (by decide)) (.cons name.isGroup (.cons (isGroup_sign (by decide))
      ((AreGroups.flatMap UsingDirective.areGroups).append
        ((areGroups_ofAll members).append (.cons (isGroup_sign (by decide)) .nil)))))

theorem Member.areGroups_ofAll : (members : List Member) → AreGroups (Member.groupsOfAll members)
  | [] => by
    unfold Member.groupsOfAll
    exact .nil
  | member :: rest => by
    unfold Member.groupsOfAll
    exact member.areGroups.append (areGroups_ofAll rest)

end

theorem Program.areGroups (program : Program) : AreGroups program.groups :=
  (AreGroups.flatMap FileDirective.areGroups).append (Member.areGroups_ofAll program.members)

/-- Every program can be written down. -/
theorem Program.exists_spelling (program : Program) : ∃ source, program.SpelledAs source := by
  obtain ⟨source, spells⟩ := program.areGroups.exists_spells
  refine ⟨String.ofList source, ?_⟩
  rw [SpelledAs, String.toList_ofList]
  exact spells

end UsingCensus.CSharp
