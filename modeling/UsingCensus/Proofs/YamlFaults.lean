import UsingCensus.Yaml.Graph

namespace UsingCensus

section

variable {ε α β : Type} {good : α → Prop} {bad : ε → Prop} {result : Except ε α}

/-- A result that gives values of a kind, or fails as is allowed. -/
def Answers (good : α → Prop) (bad : ε → Prop) : Except ε α → Prop
  | .ok value => good value
  | .error fault => bad fault

namespace Answers

theorem mono {better : α → Prop} {worse : ε → Prop} (answers : Answers good bad result)
    (values : ∀ value, good value → better value) (faults : ∀ fault, bad fault → worse fault) :
    Answers better worse result := by
  cases result with
  | ok value => exact values value answers
  | error fault => exact faults fault answers

theorem bind {next : α → Except ε β} {better : β → Prop} (answers : Answers good bad result)
    (then_ : ∀ value, good value → Answers better bad (next value)) : Answers better bad (result >>= next) := by
  cases result with
  | ok value => exact then_ value answers
  | error fault => exact answers

theorem map {f : α → β} {better : β → Prop} (answers : Answers good bad result)
    (values : ∀ value, good value → better (f value)) : Answers better bad (result.map f) := by
  cases result with
  | ok value => exact values value answers
  | error fault => exact answers

theorem ite {condition : Prop} [Decidable condition] {other : Except ε α}
    (holds : condition → Answers good bad result) (fails : ¬ condition → Answers good bad other) :
    Answers good bad (if condition then result else other) := by
  split
  · exact holds ‹_›
  · exact fails ‹_›

theorem foldlM {step : β → α → Except ε β} {items : List α} {kept : β → Prop} {start : β}
    (holds : kept start) (steps : ∀ state item, kept state → Answers kept bad (step state item)) :
    Answers kept bad (items.foldlM step start) := by
  induction items generalizing start with
  | nil => exact holds
  | cons item rest ih =>
    rw [List.foldlM_cons]
    exact (steps start item holds).bind fun state kept => ih kept

theorem value_of_eq {value : α} (answers : Answers good bad result) (succeeded : result = .ok value) : good value := by
  rw [succeeded] at answers
  exact answers

theorem fault_of_eq {fault : ε} (answers : Answers good bad result) (failed : result = .error fault) :
    bad fault := by
  rw [failed] at answers
  exact answers

end Answers

end

namespace Yaml

variable {α β : Type} {result : Except Fault α}

/-- A result that fails for the form of the text only. -/
abbrev FormOnly (result : Except Fault α) : Prop := Answers (fun _ => True) (· = .malformed) result

theorem FormOnly.map {f : α → β} (formOnly : FormOnly result) : FormOnly (result.map f) :=
  Answers.map formOnly fun _ _ => trivial

theorem FormOnly.bind {next : α → Except Fault β} (formOnly : FormOnly result)
    (then_ : ∀ value, FormOnly (next value)) : FormOnly (result >>= next) :=
  Answers.bind formOnly fun value _ => then_ value

/-- The text holds the escape of a number. -/
def Escapes (text : List Char) (point : Nat) : Prop :=
  ∃ mark count digits, numberedEscapes.lookup mark = some count ∧ digits.length = count ∧
    digits.all Text.isHexDigit ∧ Text.digitsValue 16 digits = point ∧ '\\' :: mark :: digits <:+: text

/-- In a row of digits, points and spaces at the start of the text there is a number with too many digits. -/
def StartsLong (text : List Char) (count : Nat) : Prop :=
  ∃ between digits, (∀ c ∈ between, c = ' ' ∨ c = '.' ∨ Text.isAsciiDigit c = true) ∧
    (∀ c ∈ digits, Text.isAsciiDigit c = true) ∧ digits.length = count ∧ Text.digitLimit < count ∧
    between ++ digits <+: text

/-- What is wrong with a text beside its form. -/
inductive Miswritten (text : List Char) : Fault → Prop where
  | noCharacter {point : Nat} (escapes : Escapes text point) (large : 0x110000 ≤ point)
      (small : point < 0x80000000) : Miswritten text .notACharacter
  | hugeCharacter {point : Nat} (escapes : Escapes text point) (huge : 0x80000000 ≤ point) :
      Miswritten text .characterTooLarge
  | longVersion {rest : List Char} {count : Nat} (stands : "%YAML".toList ++ rest <:+: text)
      (long : StartsLong rest count) : Miswritten text (.integerTooLong count)

def TextFault (text : List Char) (fault : Fault) : Prop := fault = .malformed ∨ Miswritten text fault

variable {text part : List Char}

theorem TextFault.of_inside {fault : Fault} (textFault : TextFault part fault) (inside : part <:+: text) :
    TextFault text fault := by
  have outer {point : Nat} : Escapes part point → Escapes text point :=
    fun ⟨mark, count, digits, named, length, hex, value, stands⟩ =>
      ⟨mark, count, digits, named, length, hex, value, stands.trans inside⟩
  refine textFault.imp_right fun miswritten => ?_
  cases miswritten with
  | noCharacter escapes large small => exact .noCharacter (outer escapes) large small
  | hugeCharacter escapes huge => exact .hugeCharacter (outer escapes) huge
  | longVersion stands long => exact .longVersion (stands.trans inside) long

/-! ### Escapes -/

theorem formOnly_quotedBreaks (atStart : Bool) (cs : List Char) : FormOnly (quotedBreaks atStart cs) := by
  fun_induction quotedBreaks atStart cs with
  | case1 => trivial
  | case2 => rfl
  | case3 _ _ _ _ _ ih => exact ih.map
  | case4 _ _ _ _ _ _ ih => exact ih.map
  | case5 => trivial

theorem formOnly_quotedBlanks (cs : List Char) : FormOnly (quotedBlanks cs) := by
  unfold quotedBlanks
  dsimp only
  split
  · rfl
  · exact .ite (fun _ => (formOnly_quotedBreaks true _).map) fun _ => trivial

theorem answers_characterOf (point : Nat) (escapes : Escapes text point) :
    Answers (fun _ => True) (TextFault text) (characterOf point) := by
  unfold characterOf
  refine .ite (fun huge => .inr (.hugeCharacter escapes huge)) fun small => ?_
  refine .ite (fun large => .inr (.noCharacter escapes large (by omega))) fun _ => ?_
  exact .ite (fun _ => trivial) fun _ => trivial

theorem answers_escapePiece (cs : List Char) : Answers (fun _ => True) (TextFault ('\\' :: cs)) (escapePiece cs) := by
  unfold escapePiece
  split
  · exact .inl rfl
  rename_i mark rest
  split
  · trivial
  · rename_i count _ numbered
    refine .ite (fun digits => ?_) fun _ => .inl rfl
    obtain ⟨length, hex⟩ := Bool.and_eq_true_iff.mp digits
    refine (answers_characterOf _ ?_).map fun _ => id
    exact ⟨mark, count, rest.take count, numbered, of_decide_eq_true length, hex, rfl, [], rest.drop count, by simp⟩
  · exact .ite (fun _ => (formOnly_quotedBreaks true rest).mono (fun _ => id) (fun _ => .inl) |>.map fun _ => id)
      fun _ => .inl rfl

theorem answers_quotedPiece (double : Bool) (c : Char) (rest : List Char) :
    Answers (fun _ => True) (TextFault (c :: rest)) (quotedPiece double c rest) := by
  unfold quotedPiece
  refine .ite (fun _ => ?_) fun _ => .ite (fun _ => .ite (fun _ => trivial) fun _ => .ite (fun escapes => ?_) fun _ =>
    trivial) fun _ => .ite (fun _ => .ite (fun _ => trivial) fun _ => trivial) fun _ => trivial
  · exact ((formOnly_quotedBlanks (c :: rest)).mono (fun _ => id) fun _ => .inl).map fun _ => id
  · rw [escapes]
    exact answers_escapePiece rest

theorem answers_quotedScalar (double : Bool) (cs : List Char) :
    Answers (fun _ => True) (TextFault cs) (quotedScalar double cs) := by
  fun_induction quotedScalar double cs with
  | case1 => exact .inl rfl
  | case2 c rest fault failed =>
    exact (answers_quotedPiece double c rest).fault_of_eq failed
  | case3 => trivial
  | case4 c rest chars more _ ih =>
    refine (ih.mono (fun _ => id) fun fault bad => bad.of_inside ?_).map fun _ => id
    exact ((List.drop_suffix more rest).trans (List.suffix_cons c rest)).isInfix

/-! ### Directives -/

/-- A fault of form, or a number that is too long in a row at the start. -/
def NumberFault (text : List Char) (fault : Fault) : Prop :=
  fault = .malformed ∨ ∃ count, fault = .integerTooLong count ∧ StartsLong text count

theorem NumberFault.of_drop {fault : Fault} {length : Nat} (numberFault : NumberFault (text.drop length) fault)
    (row : ∀ c ∈ text.take length, c = ' ' ∨ c = '.' ∨ Text.isAsciiDigit c = true) : NumberFault text fault := by
  refine numberFault.imp_right fun ⟨count, same, between, digits, plain, all, counted, long, stands⟩ => ?_
  refine ⟨count, same, text.take length ++ between, digits, ?_, all, counted, long, ?_⟩
  · intro c member
    exact (List.mem_append.mp member).elim (row c) (plain c)
  · have whole := (List.prefix_append_right_inj (text.take length)).mpr stands
    rwa [List.take_append_drop, ← List.append_assoc] at whole

theorem formOnly_formed (part : Option α) : FormOnly (formed part) := by
  cases part <;> trivial

theorem answers_number (cs : List Char) :
    Answers (fun number => ∀ c ∈ cs.take number.2, Text.isAsciiDigit c = true) (NumberFault cs) (number cs) := by
  have digits : ∀ c ∈ cs.takeWhile Text.isAsciiDigit, Text.isAsciiDigit c = true :=
    List.all_eq_true.mp List.all_takeWhile
  have front : cs.take (cs.takeWhile Text.isAsciiDigit).length = cs.takeWhile Text.isAsciiDigit :=
    (List.prefix_iff_eq_take.mp (List.takeWhile_prefix _)).symm
  unfold number
  refine .ite (fun _ => .inl rfl) fun _ => .ite (fun long => ?_) fun _ => ?_
  · exact .inr ⟨_, rfl, [], _, nofun, digits, rfl, long, List.takeWhile_prefix _⟩
  · intro c member
    exact digits c (front ▸ member)

theorem answers_versionBody (cs : List Char) : Answers (fun _ => True) (NumberFault cs) (versionBody cs) := by
  refine (answers_number cs).bind fun ⟨major, n⟩ digits => ?_
  refine .ite (fun _ => .inl rfl) fun pointed => ?_
  refine ((answers_number _).mono (fun _ _ => trivial) fun fault bad => ?_).bind fun _ _ => trivial
  refine bad.of_drop fun c member => ?_
  rw [List.take_add_one, Decidable.of_not_not pointed] at member
  rcases List.mem_append.mp member with digit | point
  · exact .inr (.inr (digits c digit))
  · exact .inr (.inl (List.mem_singleton.mp point))

theorem answers_directiveBody (name : String) (cs : List Char) :
    Answers (fun _ => True) (fun fault => fault = .malformed ∨ name = "YAML" ∧ NumberFault cs fault)
      (directiveBody name cs) := by
  have spaces : ∀ c ∈ cs.take (spaceCount cs), c = ' ' := by
    intro c member
    rw [spaceCount, ← List.prefix_iff_eq_take.mp (List.takeWhile_prefix _)] at member
    exact of_decide_eq_true (List.all_eq_true.mp List.all_takeWhile c member)
  unfold directiveBody
  dsimp only
  refine .ite (fun named => ?_) fun _ => .ite (fun _ => ?_) fun _ => trivial
  · refine ((answers_versionBody _).mono (fun _ => id) fun fault bad => ?_).bind fun _ _ =>
      .ite (fun _ => trivial) fun _ => .inl rfl
    exact .inr ⟨named, bad.of_drop fun c member => .inl (spaces c member)⟩
  · exact ((formOnly_formed _).mono (fun _ => id) fun _ => .inl).bind fun _ _ =>
      .ite (fun _ => trivial) fun _ => .inl rfl

theorem answers_directive (cs : List Char) : Answers (fun _ => True) (TextFault ('%' :: cs)) (directive cs) := by
  unfold directive
  refine .ite (fun _ => .inl rfl) fun _ => ?_
  refine ((answers_directiveBody _ _).mono (fun _ => id) fun fault bad => ?_).bind fun _ _ => ?_
  · rcases bad with rfl | ⟨named, rfl | ⟨count, rfl, long⟩⟩
    · exact .inl rfl
    · exact .inl rfl
    · have front : cs.take (nameLength cs) = "YAML".toList := by rw [← named, String.toList_ofList]
      refine .inr (.longVersion ?_ long)
      have whole : "%YAML".toList ++ cs.drop (nameLength cs) = '%' :: cs := by
        rw [show "%YAML".toList = '%' :: "YAML".toList from rfl, ← front, List.cons_append, List.take_append_drop]
      exact whole ▸ List.infix_rfl
  · exact ((formOnly_formed _).mono (fun _ => id) fun _ => .inl).bind fun _ _ => trivial

/-! ### Tokens -/

theorem Cursor.skip_rest_suffix (cursor : Cursor) (count : Nat) : (cursor.skip count).rest <:+ cursor.rest := by
  induction count generalizing cursor with
  | zero => exact List.suffix_rfl
  | succ count ih =>
    refine (ih cursor.next).trans ?_
    unfold next
    split
    · exact List.suffix_rfl
    · rename_i c rest stands
      rw [stands]
      split <;> exact List.suffix_cons c rest

theorem Cursor.skipMark_rest_suffix (cursor : Cursor) : cursor.skipMark.rest <:+ cursor.rest := by
  unfold skipMark
  split
  · exact cursor.skip_rest_suffix 1
  · exact List.suffix_rfl

namespace Scanner

variable {scanner : Scanner}

/-- A step that stays at the cursor, or fails for the form of the text. -/
abbrev Stays (scanner : Scanner) (result : Except Fault Scanner) : Prop :=
  Answers (fun next => next.cursor = scanner.cursor) (· = .malformed) result

/-- A step that leaves some end of what is still to be read, or fails as is allowed. -/
abbrev GoesOn (scanner : Scanner) (bad : Fault → Prop) (result : Except Fault Scanner) : Prop :=
  Answers (fun next => next.cursor.rest <:+ scanner.cursor.rest) bad result

theorem cursor_unwind (scanner : Scanner) : scanner.unwind.cursor = scanner.cursor := by
  unfold unwind
  split <;> rfl

theorem cursor_unwindAll (scanner : Scanner) : scanner.unwindAll.cursor = scanner.cursor := by
  unfold unwindAll
  split <;> rfl

theorem stays_dropStale (scanner : Scanner) : scanner.Stays scanner.dropStale :=
  .ite (fun _ => rfl) fun _ => rfl

theorem stays_dropCandidate (scanner : Scanner) : scanner.Stays scanner.dropCandidate :=
  .ite (fun _ => rfl) fun _ => rfl

theorem stays_saveCandidate (scanner : Scanner) : scanner.Stays scanner.saveCandidate :=
  .ite (fun _ => rfl) fun _ => scanner.stays_dropCandidate.map fun _ same => same

theorem stays_openFor (scanner : Scanner) (token : Token) : scanner.Stays (scanner.openFor token) := by
  refine .ite (fun _ => rfl) fun _ => .ite (fun _ => ?_) fun _ => rfl
  change (scanner.openBlock token).cursor = scanner.cursor
  unfold openBlock
  split <;> rfl

theorem Stays.of_eq {next : Scanner} {result : Except Fault Scanner} (stays : next.Stays result)
    (same : next.cursor = scanner.cursor) : scanner.Stays result := by
  rwa [Stays, same] at stays

theorem skip_suffix {next : Scanner} (same : next.cursor = scanner.cursor) (length : Nat) :
    (next.cursor.skip length).rest <:+ scanner.cursor.rest := by
  rw [same]
  exact scanner.cursor.skip_rest_suffix length

theorem goesOn_prepare (scanner : Scanner) : scanner.GoesOn (· = .malformed) scanner.prepare := by
  unfold prepare
  dsimp only
  refine (stays_dropStale _).map fun next same => ?_
  rw [cursor_unwind, same]
  exact scanner.cursor.skip_rest_suffix _

theorem goesOn_fetchStreamEnd (scanner : Scanner) : scanner.GoesOn (· = .malformed) scanner.fetchStreamEnd :=
  (scanner.unwindAll.stays_dropCandidate.of_eq scanner.cursor_unwindAll).map fun _ same => skip_suffix same 0

theorem goesOn_fetchOutside (scanner : Scanner) (length : Nat) (token : Token) :
    scanner.GoesOn (· = .malformed) (scanner.fetchOutside length token) :=
  (scanner.unwindAll.stays_dropCandidate.of_eq scanner.cursor_unwindAll).map fun _ same => skip_suffix same length

theorem goesOn_fetchDirective (scanner : Scanner) (rest : List Char) :
    scanner.GoesOn (TextFault ('%' :: rest)) (scanner.fetchDirective rest) :=
  ((scanner.unwindAll.stays_dropCandidate.of_eq scanner.cursor_unwindAll).mono (fun _ => id) fun _ => .inl).bind
    fun _ same => (answers_directive rest).bind fun _ _ => skip_suffix same _

theorem goesOn_fetchFlowStart (scanner : Scanner) (token : Token) :
    scanner.GoesOn (· = .malformed) (scanner.fetchFlowStart token) :=
  scanner.stays_saveCandidate.map fun _ same => skip_suffix same 1

theorem goesOn_fetchFlowEnd (scanner : Scanner) (token : Token) :
    scanner.GoesOn (· = .malformed) (scanner.fetchFlowEnd token) := by
  unfold fetchFlowEnd
  split
  · rfl
  · exact scanner.stays_dropCandidate.map fun _ same => skip_suffix same 1

theorem goesOn_fetchFlowEntry (scanner : Scanner) : scanner.GoesOn (· = .malformed) scanner.fetchFlowEntry :=
  scanner.stays_dropCandidate.map fun _ same => skip_suffix same 1

theorem goesOn_fetchBlockEntry (scanner : Scanner) : scanner.GoesOn (· = .malformed) scanner.fetchBlockEntry :=
  (scanner.stays_openFor .blockSequenceStart).bind fun next same =>
    (next.stays_dropCandidate.of_eq same).bind fun _ same => skip_suffix same 1

theorem goesOn_fetchKey (scanner : Scanner) : scanner.GoesOn (· = .malformed) scanner.fetchKey :=
  (scanner.stays_openFor .blockMappingStart).bind fun next same =>
    (next.stays_dropCandidate.of_eq same).bind fun _ same => skip_suffix same 1

theorem goesOn_fetchValue (scanner : Scanner) : scanner.GoesOn (· = .malformed) scanner.fetchValue := by
  unfold fetchValue
  split
  · exact scanner.cursor.skip_rest_suffix 1
  · exact (scanner.stays_openFor .blockMappingStart).map fun _ same => skip_suffix same 1

theorem goesOn_fetchInline (scanner : Scanner) (token : Option (Token × Nat)) :
    scanner.GoesOn (· = .malformed) (scanner.fetchInline token) := by
  unfold fetchInline
  split
  · rfl
  · exact scanner.stays_saveCandidate.map fun _ same => skip_suffix same _

theorem goesOn_fetchBlockScalar (scanner : Scanner) (folded : Bool) (rest : List Char) :
    scanner.GoesOn (· = .malformed) (scanner.fetchBlockScalar folded rest) := by
  have stays := scanner.stays_dropCandidate
  unfold fetchBlockScalar
  split
  · rename_i dropped _
    rw [dropped] at stays
    exact skip_suffix stays _
  · rfl

theorem goesOn_fetchPlain (scanner : Scanner) (cs : List Char) :
    scanner.GoesOn (· = .malformed) (scanner.fetchPlain cs) :=
  scanner.stays_saveCandidate.map fun _ same => skip_suffix same _

theorem goesOn_fetchQuoted (scanner : Scanner) (double : Bool) (rest : List Char) :
    scanner.GoesOn (TextFault rest) (scanner.fetchQuoted double rest) :=
  (scanner.stays_saveCandidate.mono (fun _ => id) fun _ => .inl).bind fun _ same =>
    (answers_quotedScalar double rest).bind fun _ _ => skip_suffix same _

theorem goesOn_of_form {result : Except Fault Scanner} (goesOn : scanner.GoesOn (· = .malformed) result) :
    scanner.GoesOn (TextFault text) result :=
  goesOn.mono (fun _ => id) fun _ => .inl

theorem goesOn_fetch (scanner : Scanner) (c : Char) (rest : List Char) :
    scanner.GoesOn (TextFault (c :: rest)) (scanner.fetch c rest) := by
  have quoted (double : Bool) : scanner.GoesOn (TextFault (c :: rest)) (scanner.fetchQuoted double rest) :=
    (scanner.goesOn_fetchQuoted double rest).mono (fun _ => id) fun _ bad =>
      bad.of_inside (List.suffix_cons c rest).isInfix
  unfold fetch
  refine .ite (fun starts => ?_) fun _ => ?_
  · obtain rfl : c = '%' := of_decide_eq_true (Bool.and_eq_true_iff.mp starts).2
    exact scanner.goesOn_fetchDirective rest
  refine .ite (fun _ => goesOn_of_form (scanner.goesOn_fetchOutside _ _)) fun _ => ?_
  refine .ite (fun _ => goesOn_of_form (scanner.goesOn_fetchOutside _ _)) fun _ => ?_
  refine .ite (fun _ => goesOn_of_form (scanner.goesOn_fetchFlowStart _)) fun _ => ?_
  refine .ite (fun _ => goesOn_of_form (scanner.goesOn_fetchFlowStart _)) fun _ => ?_
  refine .ite (fun _ => goesOn_of_form (scanner.goesOn_fetchFlowEnd _)) fun _ => ?_
  refine .ite (fun _ => goesOn_of_form (scanner.goesOn_fetchFlowEnd _)) fun _ => ?_
  refine .ite (fun _ => goesOn_of_form scanner.goesOn_fetchFlowEntry) fun _ => ?_
  refine .ite (fun _ => goesOn_of_form scanner.goesOn_fetchBlockEntry) fun _ => ?_
  refine .ite (fun _ => goesOn_of_form scanner.goesOn_fetchKey) fun _ => ?_
  refine .ite (fun _ => goesOn_of_form scanner.goesOn_fetchValue) fun _ => ?_
  refine .ite (fun _ => goesOn_of_form (scanner.goesOn_fetchInline _)) fun _ => ?_
  refine .ite (fun _ => goesOn_of_form (scanner.goesOn_fetchInline _)) fun _ => ?_
  refine .ite (fun _ => goesOn_of_form (scanner.goesOn_fetchInline _)) fun _ => ?_
  refine .ite (fun _ => goesOn_of_form (scanner.goesOn_fetchBlockScalar _ _)) fun _ => ?_
  refine .ite (fun _ => goesOn_of_form (scanner.goesOn_fetchBlockScalar _ _)) fun _ => ?_
  refine .ite (fun _ => quoted false) fun _ => ?_
  refine .ite (fun _ => quoted true) fun _ => ?_
  exact .ite (fun _ => goesOn_of_form (scanner.goesOn_fetchPlain _)) fun _ => .inl rfl

/-- The tokens of a text end in a fault of its form or of its escapes, or in none. -/
theorem textFault_run {fault : Fault} (failed : scanner.run.2 = some fault) :
    TextFault scanner.cursor.rest fault := by
  fun_induction run scanner with
  | case1 scanner other refused =>
    cases failed
    exact .inl (scanner.goesOn_prepare.fault_of_eq refused)
  | case2 => cases failed
  | case3 scanner ready prepared _ other refused =>
    cases failed
    exact .inl (ready.goesOn_fetchStreamEnd.fault_of_eq refused)
  | case4 scanner ready prepared c rest stands other refused =>
    cases failed
    have inside : ready.cursor.rest <:+ scanner.cursor.rest := scanner.goesOn_prepare.value_of_eq prepared
    rw [stands] at inside
    exact ((ready.goesOn_fetch c rest).fault_of_eq refused).of_inside inside.isInfix
  | case5 scanner ready prepared c rest stands next fetched shorter ih =>
    have inside : ready.cursor.rest <:+ scanner.cursor.rest := scanner.goesOn_prepare.value_of_eq prepared
    have later : next.cursor.rest <:+ ready.cursor.rest := (ready.goesOn_fetch c rest).value_of_eq fetched
    exact (ih failed).of_inside (later.trans inside).isInfix
  | case6 =>
    cases failed
    exact .inl rfl

end Scanner

/-! ### Nodes -/

namespace Composition

variable {composition : Composition}

theorem formOnly_addNode (composition : Composition) (standard : Tag) (content : Content) :
    FormOnly (composition.addNode standard content) := by
  unfold addNode
  dsimp only
  split
  · trivial
  · exact .ite (fun _ => rfl) fun _ => trivial

theorem formOnly_putScalar (composition : Composition) (text : String) (plain : Bool) :
    FormOnly (composition.putScalar text plain) :=
  (composition.formOnly_addNode _ _).map

theorem formOnly_openCollection (composition : Composition) (kind : CollectionKind) (standard : Tag)
    (content : Content) (phase : Phase) : FormOnly (composition.openCollection kind standard content phase) :=
  (composition.formOnly_addNode _ _).map

theorem formOnly_fillNode (composition : Composition) (token : Token) : FormOnly (composition.fillNode token) := by
  unfold fillNode
  split
  · exact .ite (fun _ => composition.formOnly_putScalar _ _) fun _ => trivial
  · trivial

theorem formOnly_fillValue (composition : Composition) (token : Token) : FormOnly (composition.fillValue token) := by
  unfold fillValue
  split
  · split
    · exact .ite (fun _ => trivial) fun _ => formOnly_putScalar _ _ _
    · trivial
  · trivial

theorem formOnly_settle (composition : Composition) (token : Token) : FormOnly (composition.settle token) := by
  fun_induction settle composition token with
  | case1 composition fault failed =>
    have filled := (composition.formOnly_fillNode token).bind fun next => next.formOnly_fillValue token
    exact filled.fault_of_eq failed
  | case2 _ _ _ _ _ ih => exact ih
  | case3 => rfl
  | case4 => trivial

theorem formOnly_addDirective (composition : Composition) (surplus versioned : Bool) (directive : Directive) :
    FormOnly (composition.addDirective surplus versioned directive) := by
  unfold addDirective
  split
  · exact .ite (fun _ => rfl) fun _ => trivial
  · exact .ite (fun _ => rfl) fun _ => trivial
  · trivial

theorem formOnly_shift (composition : Composition) (token : Token) : FormOnly (composition.shift token) := by
  unfold shift
  split
  · rfl
  rename_i frame _ _
  have node {effect : Except Fault Composition} (formOnly : FormOnly effect) :
      FormOnly (if frame.phase.expectsNode then effect else .error .malformed) :=
    .ite (fun _ => formOnly) fun _ => rfl
  have block {effect : Except Fault Composition} (formOnly : FormOnly effect) :
      FormOnly (if frame.kind.admitsBlocks then if frame.phase.expectsNode then effect else .error .malformed
        else .error .malformed) :=
    .ite (fun _ => node formOnly) fun _ => rfl
  dsimp only
  split
  · exact node trivial
  · refine node ?_
    split
    · trivial
    · split
      · trivial
      · exact .ite (fun _ => rfl) fun _ => trivial
  · refine node ?_
    split
    · trivial
    · rfl
  · exact node (composition.formOnly_putScalar _ _)
  · exact node (composition.formOnly_openCollection ..)
  · exact node (composition.formOnly_openCollection ..)
  · exact block (composition.formOnly_openCollection ..)
  · exact block (composition.formOnly_openCollection ..)
  · split
    · trivial
    · trivial
    · exact node (composition.formOnly_openCollection ..)
    · rfl
  · split
    · trivial
    · trivial
    · exact composition.formOnly_openCollection ..
    · rfl
  · split
    · trivial
    · rfl
  · exact .ite (fun _ => trivial) fun _ => rfl
  · exact .ite (fun _ => trivial) fun _ => rfl
  · exact .ite (fun _ => trivial) fun _ => rfl
  · exact .ite (fun _ => trivial) fun _ => rfl
  · split
    · exact formOnly_addDirective ..
    · trivial
    · trivial
    · rfl

theorem formOnly_step (composition : Composition) (token : Token) : FormOnly (composition.step token) := by
  unfold step
  split
  · exact formOnly_addDirective ..
  · trivial
  · trivial
  · exact formOnly_shift ..
  · exact formOnly_addDirective ..
  · trivial
  · exact .ite (fun _ => rfl) fun _ => (formOnly_settle ..).bind fun next => next.formOnly_shift _
  · rfl

end Composition

/-- A text has a document or none, or it fails for its form or its escapes. -/
theorem answers_graph (text : List Char) : Answers (fun _ => True) (TextFault text) (Graph.ofText text) := by
  unfold Graph.ofText
  refine .ite (fun _ => .inl rfl) fun _ => ?_
  have composed (tokens : List Token) : FormOnly (tokens.foldlM Composition.step Composition.fresh) :=
    .foldlM trivial fun composition token _ => composition.formOnly_step token
  dsimp only
  split
  · rename_i failed
    exact .inl ((composed _).fault_of_eq failed)
  · rename_i failed
    exact (Scanner.textFault_run failed).of_inside (Cursor.start text).skipMark_rest_suffix.isInfix
  · trivial

end Yaml
end UsingCensus
