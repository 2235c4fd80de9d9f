import Mathlib.Data.List.TakeWhile
import UsingCensus.Configuration

namespace UsingCensus

namespace Text

theorem trim_trim (cs : List Char) : trim (trim cs) = trim cs := by
  have first (ds : List Char) : ∀ c ∈ (ds.dropWhile isBlank).head?, isBlank c = false := by
    intro c found
    have kept := List.head?_dropWhile_not isBlank ds
    rw [Option.mem_def.mp found] at kept
    exact kept
  unfold trim trimBy
  refine trim_eq_self ?_ ?_
  · intro c found
    rw [List.head?_reverse] at found
    obtain ⟨before, same⟩ := List.dropWhile_suffix isBlank (l := (cs.dropWhile isBlank).reverse)
    refine first cs c ?_
    have last := congrArg List.getLast? same
    rw [List.getLast?_append, Option.mem_def.mp found, List.getLast?_reverse] at last
    exact last.symm
  · intro c found
    rw [List.getLast?_reverse] at found
    exact first _ c found

theorem trim_eq_nil_iff {cs : List Char} : trim cs = [] ↔ ∀ c ∈ cs, isBlank c = true := by
  unfold trim trimBy
  rw [List.reverse_eq_nil_iff, List.dropWhile_eq_nil_iff]
  constructor
  · intro blank c member
    rw [← List.takeWhile_append_dropWhile (p := isBlank) (l := cs)] at member
    rcases List.mem_append.mp member with front | behind
    · exact List.all_eq_true.mp List.all_takeWhile c front
    · exact blank c (List.mem_reverse.mpr behind)
  · intro blank c member
    exact blank c ((List.dropWhile_sublist _).subset (List.mem_reverse.mp member))

end Text

open Yaml (Value)

/-- The setting that a fault is about. -/
def ConfigurationFault.setting? : ConfigurationFault → Option String
  | notInteger setting => some setting
  | negative setting => some setting
  | notPositive setting => some setting
  | notBoolean setting => some setting
  | notTextList setting => some setting
  | noModuleName setting => some setting
  | _ => none

namespace Configuration

/-- What has a meaning in a configuration file. -/
inductive Setting where
  | count
  | noWarn
  | maxWorkers
  | generatedFiles
  | excludePaths
  | grammar
  deriving DecidableEq, Repr

/-- Nothing, one text, or a list of texts. -/
inductive IsTextList : Value → Prop where
  | nothing : IsTextList .null
  | single (text : String) : IsTextList (.text text)
  | list (texts : List String) : IsTextList (.sequence (texts.map .text))
  | noBytes : IsTextList (.bytes [])

namespace Setting

def all : List Setting := [count, noWarn, maxWorkers, generatedFiles, excludePaths, grammar]

def name : Setting → String
  | count => "count"
  | noWarn => "no_warn"
  | maxWorkers => "max_workers"
  | generatedFiles => "generated_files"
  | excludePaths => "exclude_paths"
  | grammar => "grammar"

def before (setting : Setting) : List Setting := all.takeWhile (· ≠ setting)

def after (setting : Setting) : List Setting := (all.dropWhile (· ≠ setting)).tail

/-- The values that a setting may have. -/
inductive Admits : Setting → Value → Prop where
  | noCount : Admits count .null
  | count (n : Int) (natural : 0 ≤ n) : Admits count (.integer n)
  | noWarn (b : Bool) : Admits noWarn (.boolean b)
  | noMaxWorkers : Admits maxWorkers .null
  | maxWorkers (n : Int) (positive : 0 < n) : Admits maxWorkers (.integer n)
  | generatedFiles {value : Value} (texts : IsTextList value) : Admits generatedFiles value
  | excludePaths {value : Value} (texts : IsTextList value) : Admits excludePaths value
  | grammar {text : String} {c : Char} (member : c ∈ text.toList) (visible : Text.isBlank c = false) :
      Admits grammar (.text text)

end Setting

/-! ### What is said against a value -/

variable {α : Type}

def fault? : Except ConfigurationFault α → Option ConfigurationFault
  | .ok _ => none
  | .error fault => some fault

theorem fault?_eq_none_iff {result : Except ConfigurationFault α} :
    fault? result = none ↔ ∃ value, result = .ok value := by
  cases result <;> simp [fault?]

theorem fault?_eq_some_iff {result : Except ConfigurationFault α} {fault : ConfigurationFault} :
    fault? result = some fault ↔ result = .error fault := by
  cases result <;> simp [fault?]

/-- What reading a setting ends with if its value makes no sense. -/
def Setting.refusal? (setting : Setting) (value : Value) : Option ConfigurationFault :=
  match setting with
  | count => fault? (natural setting.name value)
  | noWarn => fault? (boolean setting.name value)
  | maxWorkers => fault? (positive setting.name value)
  | generatedFiles => fault? (texts setting.name value)
  | excludePaths => fault? (texts setting.name value)
  | grammar => fault? (moduleName setting.name value)

theorem natural_eq_ok_iff {setting : String} {value : Value} :
    (∃ n, natural setting value = .ok n) ↔ value = .null ∨ ∃ n : Int, 0 ≤ n ∧ value = .integer n := by
  cases value with
  | integer n =>
    by_cases below : n < 0
    · simp [natural, below]
    · simp [natural, below, Int.not_lt.mp below]
  | _ => simp [natural]

theorem positive_eq_ok_iff {setting : String} {value : Value} :
    (∃ n, positive setting value = .ok n) ↔ value = .null ∨ ∃ n : Int, 0 < n ∧ value = .integer n := by
  cases value with
  | integer n =>
    rcases Int.lt_trichotomy n 0 with below | rfl | above
    · have still : ¬ 0 < n := by omega
      simp [positive, natural, below, still]
    · simp [positive, natural]
    · obtain ⟨more, rfl⟩ := Int.eq_succ_of_zero_lt above
      have below : ¬ ((more : Int) + 1 < 0) := by omega
      have same : ((more : Int) + 1).toNat = more + 1 := by omega
      simp [positive, natural, below, same, above]
  | _ => simp [positive, natural]

theorem boolean_eq_ok_iff {setting : String} {value : Value} :
    (∃ b, boolean setting value = .ok b) ↔ ∃ b, value = .boolean b := by
  cases value <;> simp [boolean]

theorem mapM_text?_map (texts : List String) : (texts.map .text).mapM text? = some texts := by
  induction texts with
  | nil => rfl
  | cons text rest ih => simp [text?, ih]

theorem eq_map_of_mapM_text? {items : List Value} {texts : List String} (read : items.mapM text? = some texts) :
    items = texts.map .text := by
  induction items generalizing texts with
  | nil =>
    cases read
    rfl
  | cons item rest ih =>
    rw [List.mapM_cons] at read
    obtain ⟨first, head, read⟩ := Option.bind_eq_some_iff.mp read
    obtain ⟨more, tail, same⟩ := Option.bind_eq_some_iff.mp read
    cases same
    rw [ih tail, List.map_cons]
    cases item <;> cases head
    rfl

theorem texts_eq_ok_iff {setting : String} {value : Value} :
    (∃ list, texts setting value = .ok list) ↔ IsTextList value := by
  constructor
  · rintro ⟨list, read⟩
    unfold texts at read
    split at read
    · exact .nothing
    · exact .single _
    · exact .noBytes
    · split at read
      · rename_i found
        exact eq_map_of_mapM_text? found ▸ .list _
      · cases read
    · cases read
  · intro list
    cases list with
    | list found =>
      rw [texts, mapM_text?_map]
      exact ⟨_, rfl⟩
    | _ => exact ⟨_, rfl⟩

theorem moduleName_eq_ok_iff {setting : String} {value : Value} :
    (∃ name, moduleName setting value = .ok name) ↔
      ∃ (text : String) (c : Char), value = .text text ∧ c ∈ text.toList ∧ Text.isBlank c = false := by
  cases value with
  | text text =>
    by_cases blank : Text.trim text.toList = []
    · have all := Text.trim_eq_nil_iff.mp blank
      simpa [moduleName, blank] using all
    · have visible := mt Text.trim_eq_nil_iff.mpr blank
      simpa [moduleName, blank] using visible
  | _ => simp [moduleName]

theorem Setting.refusal?_eq_none_iff {setting : Setting} {value : Value} :
    setting.refusal? value = none ↔ setting.Admits value := by
  cases setting with
  | count =>
    rw [refusal?, fault?_eq_none_iff, natural_eq_ok_iff]
    constructor
    · rintro (rfl | ⟨n, natural, rfl⟩)
      · exact .noCount
      · exact .count n natural
    · intro admits
      cases admits with
      | noCount => exact .inl rfl
      | count n natural => exact .inr ⟨n, natural, rfl⟩
  | noWarn =>
    rw [refusal?, fault?_eq_none_iff, boolean_eq_ok_iff]
    constructor
    · rintro ⟨b, rfl⟩
      exact .noWarn b
    · intro admits
      cases admits with
      | noWarn b => exact ⟨b, rfl⟩
  | maxWorkers =>
    rw [refusal?, fault?_eq_none_iff, positive_eq_ok_iff]
    constructor
    · rintro (rfl | ⟨n, positive, rfl⟩)
      · exact .noMaxWorkers
      · exact .maxWorkers n positive
    · intro admits
      cases admits with
      | noMaxWorkers => exact .inl rfl
      | maxWorkers n positive => exact .inr ⟨n, positive, rfl⟩
  | generatedFiles =>
    rw [refusal?, fault?_eq_none_iff, texts_eq_ok_iff]
    exact ⟨.generatedFiles, fun | .generatedFiles texts => texts⟩
  | excludePaths =>
    rw [refusal?, fault?_eq_none_iff, texts_eq_ok_iff]
    exact ⟨.excludePaths, fun | .excludePaths texts => texts⟩
  | grammar =>
    rw [refusal?, fault?_eq_none_iff, moduleName_eq_ok_iff]
    constructor
    · rintro ⟨text, c, rfl, member, visible⟩
      exact .grammar member visible
    · intro admits
      cases admits with
      | grammar member visible => exact ⟨_, _, rfl, member, visible⟩

def IsAbout (setting : String) (fault : ConfigurationFault) : Prop :=
  fault.isReported = true ∧ fault.setting? = some setting

theorem isAbout_of_natural {setting : String} {value : Value} {fault : ConfigurationFault}
    (failed : natural setting value = .error fault) : IsAbout setting fault := by
  unfold natural at failed
  split at failed
  · cases failed
  · split at failed <;> cases failed
    exact ⟨rfl, rfl⟩
  · cases failed
    exact ⟨rfl, rfl⟩

theorem isAbout_of_positive {setting : String} {value : Value} {fault : ConfigurationFault}
    (failed : positive setting value = .error fault) : IsAbout setting fault := by
  unfold positive at failed
  split at failed
  · cases failed
    exact ⟨rfl, rfl⟩
  · exact isAbout_of_natural failed

theorem isAbout_of_boolean {setting : String} {value : Value} {fault : ConfigurationFault}
    (failed : boolean setting value = .error fault) : IsAbout setting fault := by
  unfold boolean at failed
  split at failed <;> cases failed
  exact ⟨rfl, rfl⟩

theorem isAbout_of_texts {setting : String} {value : Value} {fault : ConfigurationFault}
    (failed : texts setting value = .error fault) : IsAbout setting fault := by
  unfold texts at failed
  split at failed
  · cases failed
  · cases failed
  · cases failed
  · split at failed <;> cases failed
    exact ⟨rfl, rfl⟩
  · cases failed
    exact ⟨rfl, rfl⟩

theorem isAbout_of_moduleName {setting : String} {value : Value} {fault : ConfigurationFault}
    (failed : moduleName setting value = .error fault) : IsAbout setting fault := by
  unfold moduleName at failed
  split at failed
  · split at failed <;> cases failed
    exact ⟨rfl, rfl⟩
  · cases failed
    exact ⟨rfl, rfl⟩

theorem Setting.isAbout_of_refusal? {setting : Setting} {value : Value} {fault : ConfigurationFault}
    (refused : setting.refusal? value = some fault) : IsAbout setting.name fault := by
  cases setting with
  | count => exact isAbout_of_natural (fault?_eq_some_iff.mp refused)
  | noWarn => exact isAbout_of_boolean (fault?_eq_some_iff.mp refused)
  | maxWorkers => exact isAbout_of_positive (fault?_eq_some_iff.mp refused)
  | generatedFiles => exact isAbout_of_texts (fault?_eq_some_iff.mp refused)
  | excludePaths => exact isAbout_of_texts (fault?_eq_some_iff.mp refused)
  | grammar => exact isAbout_of_moduleName (fault?_eq_some_iff.mp refused)

/-! ### Mappings -/

variable {root : Path} {entries others : List (Value × Value)} {configuration : Configuration}

def Setting.offence? (entries : List (Value × Value)) (setting : Setting) : Option ConfigurationFault :=
  (setting? entries setting.name).bind setting.refusal?

theorem Setting.offence?_eq_none_iff {setting : Setting} :
    setting.offence? entries = none ↔ ∀ value, setting? entries setting.name = some value → setting.Admits value := by
  simp only [offence?, Option.bind_eq_none_iff, refusal?_eq_none_iff]

theorem Setting.exists_of_offence? {setting : Setting} {fault : ConfigurationFault}
    (offends : setting.offence? entries = some fault) :
    ∃ value, setting? entries setting.name = some value ∧ ¬ setting.Admits value := by
  obtain ⟨value, present, refused⟩ := Option.bind_eq_some_iff.mp offends
  refine ⟨value, present, fun admits => ?_⟩
  cases (refusal?_eq_none_iff.mpr admits).symm.trans refused

theorem fault?_readSetting (entries : List (Value × Value)) (name : String) (absent : α)
    (read : String → Value → Except ConfigurationFault α) :
    fault? (readSetting entries name absent read) =
      (setting? entries name).bind fun value => fault? (read name value) := by
  unfold readSetting
  cases setting? entries name <;> rfl

/-- If a setting is read, and then the rest without regard to its value, the first that fails counts. -/
theorem fault?_bind {β : Type} {result : Except ConfigurationFault α} {next : α → Except ConfigurationFault β}
    {check : Setting → Option ConfigurationFault} {setting : Setting} {rest : List Setting}
    (now : fault? result = check setting) (later : ∀ value, fault? (next value) = rest.findSome? check) :
    fault? (result >>= next) = (setting :: rest).findSome? check := by
  rw [List.findSome?_cons, ← now]
  cases result with
  | ok value => exact later value
  | error fault => rfl

theorem fault?_ofEntries (root : Path) (entries : List (Value × Value)) :
    fault? (ofEntries root entries) = Setting.all.findSome? (Setting.offence? entries) := by
  refine fault?_bind (fault?_readSetting ..) fun count => ?_
  refine fault?_bind (fault?_readSetting ..) fun noWarn => ?_
  refine fault?_bind (fault?_readSetting ..) fun maxWorkers => ?_
  refine fault?_bind (fault?_readSetting ..) fun generatedFiles => ?_
  refine fault?_bind (fault?_readSetting ..) fun excludePaths => ?_
  exact fault?_bind (fault?_readSetting ..) fun grammar => rfl

theorem Setting.mem_all (setting : Setting) : setting ∈ all := by
  cases setting <;> decide

/-- Exactly the mappings whose settings have values that are admitted make a configuration. -/
theorem exists_ofEntries_iff : (∃ configuration, ofEntries root entries = .ok configuration) ↔
    ∀ (setting : Setting) (value : Value), setting? entries setting.name = some value → setting.Admits value := by
  rw [← fault?_eq_none_iff, fault?_ofEntries, List.findSome?_eq_none_iff]
  simp only [Setting.mem_all, true_implies, Setting.offence?_eq_none_iff]

theorem isReported_of_ofEntries {fault : ConfigurationFault} (failed : ofEntries root entries = .error fault) :
    fault.isReported = true := by
  have first := fault?_ofEntries root entries
  rw [failed] at first
  obtain ⟨setting, -, offends⟩ := List.exists_of_findSome?_eq_some first.symm
  obtain ⟨value, -, refused⟩ := Option.bind_eq_some_iff.mp offends
  exact (Setting.isAbout_of_refusal? refused).1

theorem ofEntries_eq_error {setting : Setting} {fault : ConfigurationFault}
    (offends : setting.offence? entries = some fault)
    (earlier : ∀ other ∈ setting.before, other.offence? entries = none) : ofEntries root entries = .error fault := by
  rw [← fault?_eq_some_iff, fault?_ofEntries, List.findSome?_eq_some_iff]
  have split : Setting.all = setting.before ++ setting :: setting.after := by
    cases setting <;> rfl
  exact ⟨setting.before, setting, setting.after, split, offends, earlier⟩

def isNamed (name : String) : Value → Bool
  | .text text => text = name
  | _ => false

theorem isNamed_iff {name : String} {key : Value} : isNamed name key = true ↔ key = .text name := by
  cases key <;> simp [isNamed]

theorem setting?_eq (entries : List (Value × Value)) (name : String) :
    setting? entries name = (entries.reverse.find? fun entry => isNamed name entry.1).map Prod.snd :=
  rfl

/-- Of the entries under a name the last one has the value. -/
def Gives (entries : List (Value × Value)) (name : String) (value : Value) : Prop :=
  ∃ front behind, entries = front ++ (.text name, value) :: behind ∧ ∀ entry ∈ behind, entry.1 ≠ .text name

theorem setting?_eq_some_iff {name : String} {value : Value} :
    setting? entries name = some value ↔ Gives entries name value := by
  rw [setting?_eq, Gives]
  simp only [Option.map_eq_some_iff, List.find?_eq_some_iff_append, List.reverse_eq_append_iff, isNamed_iff,
    Bool.not_eq_true', ← Bool.not_eq_true]
  constructor
  · rintro ⟨⟨key, _⟩, ⟨same, front, behind, split, rest⟩, rfl⟩
    dsimp only at same
    subst same
    refine ⟨behind.reverse, front.reverse, by simpa using split, fun entry member => ?_⟩
    exact rest entry (List.mem_reverse.mp member)
  · rintro ⟨front, behind, split, rest⟩
    have turned : entries = ((.text name, value) :: front.reverse).reverse ++ behind.reverse.reverse := by
      simpa using split
    refine ⟨(.text name, value), ⟨rfl, behind.reverse, front.reverse, turned, fun entry member => ?_⟩, rfl⟩
    exact rest entry (List.mem_reverse.mp member)

theorem ofEntries_congr (same : ∀ setting : Setting, setting? entries setting.name = setting? others setting.name) :
    ofEntries root entries = ofEntries root others := by
  have count := same .count
  have noWarn := same .noWarn
  have maxWorkers := same .maxWorkers
  have generatedFiles := same .generatedFiles
  have excludePaths := same .excludePaths
  have grammar := same .grammar
  simp only [Setting.name] at count noWarn maxWorkers generatedFiles excludePaths grammar
  simp only [ofEntries, readSetting, count, noWarn, maxWorkers, generatedFiles, excludePaths, grammar]

/-- No two keys are the same text. -/
def Distinct (entries : List (Value × Value)) : Prop := (entries.filterMap fun entry => text? entry.1).Nodup

theorem gives_iff_mem (distinct : Distinct entries) {name : String} {value : Value} :
    Gives entries name value ↔ (.text name, value) ∈ entries := by
  constructor
  · rintro ⟨front, behind, rfl, -⟩
    exact List.mem_append_right _ List.mem_cons_self
  · intro member
    obtain ⟨front, behind, rfl⟩ := List.append_of_mem member
    refine ⟨front, behind, rfl, fun entry later same => ?_⟩
    rw [Distinct, List.filterMap_append] at distinct
    have later_distinct : (name :: behind.filterMap fun entry => text? entry.1).Nodup :=
      (List.nodup_append.mp distinct).2.1
    have absent := (List.nodup_cons.mp later_distinct).1
    refine absent (List.mem_filterMap.mpr ⟨entry, later, ?_⟩)
    rw [same]
    rfl

theorem ofEntries_perm (distinct : Distinct entries) (permuted : entries.Perm others) :
    ofEntries root entries = ofEntries root others := by
  have still : Distinct others := (permuted.filterMap _).nodup_iff.mp distinct
  refine ofEntries_congr fun setting => Option.ext fun value => ?_
  rw [setting?_eq_some_iff, setting?_eq_some_iff, gives_iff_mem distinct, gives_iff_mem still, permuted.mem_iff]

theorem ofEntries_insert {key : Value} (foreign : ∀ setting : Setting, key ≠ .text setting.name) (value : Value)
    (front behind : List (Value × Value)) :
    ofEntries root (front ++ (key, value) :: behind) = ofEntries root (front ++ behind) := by
  refine ofEntries_congr fun setting => ?_
  have passed : isNamed setting.name key = false := Bool.eq_false_iff.mpr (mt isNamed_iff.mp (foreign setting))
  simp [setting?_eq, List.find?_append, passed]

/-! ### What is made of values -/

def numberOf? : Value → Option Nat
  | .integer n => some n.toNat
  | _ => none

def textsOf : Value → List String
  | .text text => [text]
  | .sequence items => items.filterMap text?
  | _ => []

def nameOf : Value → String
  | .text text => String.ofList (Text.trim text.toList)
  | _ => ""

/-- What stands in a configuration: for each setting what its value stands for, or its default if it is absent. -/
structure Reflects (root : Path) (entries : List (Value × Value)) (configuration : Configuration) : Prop where
  root : configuration.root = root
  count : configuration.count = (setting? entries "count").bind numberOf?
  noWarn : configuration.noWarn = true ↔ setting? entries "no_warn" = some (.boolean true)
  maxWorkers : configuration.maxWorkers = (setting? entries "max_workers").bind numberOf?
  generatedFiles : configuration.generatedFiles =
    ((setting? entries "generated_files").map textsOf).getD defaultGeneratedFiles
  excludePaths : configuration.excludePaths = ((setting? entries "exclude_paths").map textsOf).getD []
  grammar : configuration.grammar = ((setting? entries "grammar").map nameOf).getD defaultGrammar

theorem eq_of_natural {setting : String} {value : Value} {number : Option Nat}
    (read : natural setting value = .ok number) : number = numberOf? value := by
  unfold natural at read
  split at read
  · cases read
    rfl
  · split at read <;> cases read
    rfl
  · cases read

theorem eq_of_positive {setting : String} {value : Value} {number : Option Nat}
    (read : positive setting value = .ok number) : number = numberOf? value := by
  unfold positive at read
  split at read
  · cases read
  · exact eq_of_natural read

theorem eq_of_texts {setting : String} {value : Value} {list : List String}
    (read : texts setting value = .ok list) : list = textsOf value := by
  unfold texts at read
  split at read
  · cases read
    rfl
  · cases read
    rfl
  · cases read
    rfl
  · split at read
    · rename_i found
      cases read
      rw [eq_map_of_mapM_text? found, textsOf, List.filterMap_map]
      exact List.filterMap_some.symm
    · cases read
  · cases read

theorem eq_of_moduleName {setting : String} {value : Value} {name : String}
    (read : moduleName setting value = .ok name) : name = nameOf value := by
  unfold moduleName at read
  split at read
  · split at read <;> cases read
    rfl
  · cases read

theorem eq_of_readSetting {name : String} {absent found : α} {read : String → Value → Except ConfigurationFault α}
    {meaning : Value → α} (succeeded : readSetting entries name absent read = .ok found)
    (meant : ∀ value, read name value = .ok found → found = meaning value) :
    found = ((setting? entries name).map meaning).getD absent := by
  unfold readSetting at succeeded
  cases present : setting? entries name with
  | none =>
    rw [present] at succeeded
    cases succeeded
    rfl
  | some value =>
    rw [present] at succeeded
    exact meant value succeeded

theorem exists_of_bind {β : Type} {result : Except ConfigurationFault α}
    {next : α → Except ConfigurationFault β} {last : β} (succeeded : (result >>= next) = .ok last) :
    ∃ value, result = .ok value ∧ next value = .ok last := by
  cases result with
  | ok value => exact ⟨value, rfl, succeeded⟩
  | error fault => cases succeeded

theorem reflects_of_ofEntries (made : ofEntries root entries = .ok configuration) :
    Reflects root entries configuration := by
  unfold ofEntries at made
  obtain ⟨count, readCount, made⟩ := exists_of_bind made
  obtain ⟨noWarn, readNoWarn, made⟩ := exists_of_bind made
  obtain ⟨maxWorkers, readMaxWorkers, made⟩ := exists_of_bind made
  obtain ⟨generatedFiles, readGeneratedFiles, made⟩ := exists_of_bind made
  obtain ⟨excludePaths, readExcludePaths, made⟩ := exists_of_bind made
  obtain ⟨grammar, readGrammar, made⟩ := exists_of_bind made
  cases made
  refine ⟨rfl, ?_, ?_, ?_, ?_, ?_, ?_⟩
  · rw [eq_of_readSetting readCount fun _ => eq_of_natural]
    cases setting? entries "count" <;> rfl
  · dsimp only
    unfold readSetting at readNoWarn
    cases present : setting? entries "no_warn" with
    | none =>
      rw [present] at readNoWarn
      cases readNoWarn
      simp
    | some value =>
      rw [present] at readNoWarn
      cases value <;> simp_all [boolean]
  · rw [eq_of_readSetting readMaxWorkers fun _ => eq_of_positive]
    cases setting? entries "max_workers" <;> rfl
  · exact eq_of_readSetting readGeneratedFiles fun _ => eq_of_texts
  · exact eq_of_readSetting readExcludePaths fun _ => eq_of_texts
  · exact eq_of_readSetting readGrammar fun _ => eq_of_moduleName

/-- A text that is not blank, and has no blanks around it. -/
def IsModuleName (name : String) : Prop := name ≠ "" ∧ Text.trim name.toList = name.toList

theorem isModuleName_nameOf {value : Value} (admits : Setting.grammar.Admits value) : IsModuleName (nameOf value) := by
  cases admits with
  | @grammar text c member visible =>
    constructor
    · intro nothing
      have blank : Text.trim text.toList = [] := by
        rw [← String.toList_ofList (l := Text.trim text.toList)]
        exact congrArg String.toList nothing
      exact Bool.noConfusion (visible.symm.trans (Text.trim_eq_nil_iff.mp blank c member))
    · rw [nameOf, String.toList_ofList, Text.trim_trim]

theorem admits_of_ofEntries (made : ofEntries root entries = .ok configuration) (setting : Setting) {value : Value}
    (present : setting? entries setting.name = some value) : setting.Admits value :=
  exists_ofEntries_iff.mp ⟨configuration, made⟩ setting value present

theorem isModuleName_grammar (made : ofEntries root entries = .ok configuration) :
    IsModuleName configuration.grammar := by
  rw [(reflects_of_ofEntries made).grammar]
  cases present : setting? entries "grammar" with
  | none => exact ⟨by decide, by decide⟩
  | some value => exact isModuleName_nameOf (admits_of_ofEntries made .grammar present)

theorem exists_grammar (root : Path) {name : String} (isModuleName : IsModuleName name) :
    ∃ configuration, ofEntries root [(.text "grammar", .text name)] = .ok configuration ∧
      configuration.grammar = name := by
  have filled : Text.trim name.toList ≠ [] := by
    rw [isModuleName.2]
    exact mt String.toList_eq_nil_iff.mp isModuleName.1
  have read : moduleName "grammar" (.text name) = .ok name := by
    rw [moduleName, if_neg filled, isModuleName.2, String.ofList_toList]
  refine ⟨⟨root, none, false, none, defaultGeneratedFiles, [], name⟩, ?_, rfl⟩
  have given : readSetting [(.text "grammar", .text name)] "grammar" defaultGrammar moduleName = .ok name := read
  unfold ofEntries
  rw [given]
  rfl

theorem maxWorkers_ne_zero (made : ofEntries root entries = .ok configuration) :
    configuration.maxWorkers ≠ some 0 := by
  rw [(reflects_of_ofEntries made).maxWorkers]
  cases present : setting? entries "max_workers" with
  | none => exact nofun
  | some value =>
    cases admits_of_ofEntries made .maxWorkers present with
    | noMaxWorkers => exact nofun
    | maxWorkers n positive =>
      rw [Option.bind_some, numberOf?, ne_eq, Option.some.injEq]
      omega

end Configuration
end UsingCensus
