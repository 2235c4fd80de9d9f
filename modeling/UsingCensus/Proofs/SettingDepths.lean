import UsingCensus.Proofs.Settings

namespace UsingCensus

namespace Yaml

/-- A value without what lies in it. -/
def Value.head : Value → Value
  | .sequence _ => .sequence []
  | .mapping _ => .mapping []
  | value => value

theorem Atom.value_ne_mapping (atom : Atom) (entries : List (Value × Value)) : atom.value ≠ .mapping entries := by
  cases atom <;> exact nofun

namespace Construction

variable {construction : Construction} {deep : Nat}

theorem head_unfold (construction : Construction) (deep id : Nat) :
    (construction.unfold (deep + 1) id).head = (construction.unfold 1 id).head := by
  simp only [unfold]
  split <;> rfl

/-- What is in a mapping, as deep as is looked. -/
def entriesAt (construction : Construction) (deep id : Nat) : List (Value × Value) :=
  (construction.graph.pairsOf id).map fun pair => (construction.unfold deep pair.1, construction.unfold deep pair.2)

theorem unfold_eq_mapping {id : Nat} {entries : List (Value × Value)}
    (unfolded : construction.unfold (deep + 1) id = .mapping entries) :
    entries = construction.entriesAt deep id ∧
      ∀ other, construction.unfold (other + 1) id = .mapping (construction.entriesAt other id) := by
  have isMapping : ∃ pairs, construction.graph.tagOf id = .mapping ∧
      construction.graph.contentOf id = .mapping pairs := by
    rw [unfold] at unfolded
    split at unfolded
    case h_4 pairs tag content => exact ⟨pairs, tag, content⟩
    case h_5 =>
      cases made : construction.made.lookup id with
      | none =>
        rw [made] at unfolded
        cases unfolded
      | some atom =>
        rw [made] at unfolded
        exact absurd unfolded (atom.value_ne_mapping entries)
    all_goals cases unfolded
  obtain ⟨pairs, tag, content⟩ := isMapping
  have any (other : Nat) : construction.unfold (other + 1) id = .mapping (construction.entriesAt other id) := by
    rw [unfold, tag, content, entriesAt, Graph.pairsOf, content]
  exact ⟨(Value.mapping.inj ((any deep).symm.trans unfolded)).symm, any⟩

end Construction

namespace Value

variable {deep : Nat} {text : List Char} {value : Value}

theorem eq_null_of_head (nothing : value.head = .null) : value = .null := by
  cases value <;> first | rfl | cases nothing

/-- A text with a value has no document or one that makes sense, however deep it is looked at. -/
theorem ofText_cases (made : ofText deep text = .ok value) :
    (value = .null ∧ ∀ other, ofText other text = .ok .null) ∨
      ∃ (construction : Construction) (root : Nat), value = construction.unfold deep root ∧
        ∀ other, ofText other text = .ok (construction.unfold other root) := by
  unfold ofText at made ⊢
  cases composed : Graph.ofText text with
  | error fault =>
    rw [composed] at made
    cases made
  | ok document =>
    rw [composed] at made
    cases document with
    | none =>
      cases made
      exact .inl ⟨rfl, fun _ => rfl⟩
    | some graph =>
      dsimp only at made
      cases constructed : Construction.ofGraph graph with
      | error fault =>
        rw [constructed] at made
        cases made
      | ok construction =>
        rw [constructed] at made
        cases made
        refine .inr ⟨construction, graph.root, rfl, fun other => ?_⟩
        dsimp only
        rw [constructed]
        rfl

theorem ofText_null (made : ofText (deep + 1) text = .ok .null) (other : Nat) :
    ofText (other + 1) text = .ok .null := by
  obtain ⟨-, all⟩ | ⟨construction, root, same, all⟩ := ofText_cases made
  · exact all _
  · have head : (construction.unfold (other + 1) root).head = .null := by
      rw [construction.head_unfold, ← construction.head_unfold deep, ← same, Value.head]
      all_goals exact nofun
    rw [all, eq_null_of_head head]

theorem ofText_mapping {entries : List (Value × Value)} (made : ofText (deep + 1) text = .ok (.mapping entries)) :
    ∃ (construction : Construction) (root : Nat), entries = construction.entriesAt deep root ∧
      ∀ other, ofText (other + 1) text = .ok (.mapping (construction.entriesAt other root)) := by
  obtain ⟨impossible, -⟩ | ⟨construction, root, same, all⟩ := ofText_cases made
  · cases impossible
  · obtain ⟨here, any⟩ := Construction.unfold_eq_mapping same.symm
    exact ⟨construction, root, here, fun other => by rw [all, any]⟩

end Value
end Yaml

open Yaml (Value Construction)

namespace Configuration

variable {construction : Construction}

theorem isNamed_head (name : String) (value : Value) : isNamed name value.head = isNamed name value := by
  cases value <;> rfl

theorem natural_head (setting : String) (value : Value) : natural setting value.head = natural setting value := by
  cases value <;> rfl

theorem positive_head (setting : String) (value : Value) : positive setting value.head = positive setting value := by
  cases value <;> rfl

theorem boolean_head (setting : String) (value : Value) : boolean setting value.head = boolean setting value := by
  cases value <;> rfl

theorem text?_head (value : Value) : text? value.head = text? value := by
  cases value <;> rfl

theorem moduleName_head (setting : String) (value : Value) :
    moduleName setting value.head = moduleName setting value := by
  cases value <;> rfl

theorem texts_unfold (setting : String) (deep id : Nat) :
    texts setting (construction.unfold (deep + 2) id) = texts setting (construction.unfold 2 id) := by
  have items : (fun id => text? (construction.unfold (deep + 1) id)) = fun id => text? (construction.unfold 1 id) := by
    funext id
    rw [← text?_head, construction.head_unfold, text?_head]
  rw [Construction.unfold, Construction.unfold]
  split
  · simp only [texts, List.mapM_map, Function.comp_def, items]
  all_goals rfl

/-- The node of a setting in a mapping. -/
def settingNode? (construction : Construction) (id : Nat) (name : String) : Option Nat :=
  ((construction.graph.pairsOf id).reverse.find? fun pair => isNamed name (construction.unfold 1 pair.1)).map Prod.snd

theorem setting?_entriesAt (deep id : Nat) (name : String) :
    setting? (construction.entriesAt (deep + 1) id) name =
      (settingNode? construction id name).map (construction.unfold (deep + 1)) := by
  have keys (key : Nat) :
      isNamed name (construction.unfold (deep + 1) key) = isNamed name (construction.unfold 1 key) := by
    rw [← isNamed_head, construction.head_unfold, isNamed_head]
  rw [setting?_eq, Construction.entriesAt, ← List.map_reverse, List.find?_map, settingNode?]
  simp only [Option.map_map, Function.comp_def, keys]

theorem readSetting_entriesAt {α : Type} (id : Nat) (name : String) (absent : α)
    {read : String → Value → Except ConfigurationFault α}
    (same : ∀ deep id, read name (construction.unfold (deep + 2) id) = read name (construction.unfold 2 id))
    (deep : Nat) :
    readSetting (construction.entriesAt (deep + 2) id) name absent read =
      readSetting (construction.entriesAt 2 id) name absent read := by
  rw [readSetting, readSetting, setting?_entriesAt, setting?_entriesAt]
  cases settingNode? construction id name with
  | none => rfl
  | some node => exact same deep node

/-- How deep a mapping is looked at does not count. -/
theorem ofEntries_entriesAt (root : Path) (deep id : Nat) :
    ofEntries root (construction.entriesAt (deep + 2) id) = ofEntries root (construction.entriesAt 2 id) := by
  have heads (deep id : Nat) : (construction.unfold (deep + 2) id).head = (construction.unfold 2 id).head :=
    (construction.head_unfold (deep + 1) id).trans (construction.head_unfold 1 id).symm
  unfold ofEntries
  rw [readSetting_entriesAt id "count" none fun deep id => by rw [← natural_head, heads, natural_head],
    readSetting_entriesAt id "no_warn" false fun deep id => by rw [← boolean_head, heads, boolean_head],
    readSetting_entriesAt id "max_workers" none fun deep id => by rw [← positive_head, heads, positive_head],
    readSetting_entriesAt id "generated_files" _ fun deep id => texts_unfold _ deep id,
    readSetting_entriesAt id "exclude_paths" _ fun deep id => texts_unfold _ deep id,
    readSetting_entriesAt id "grammar" _ fun deep id => by rw [← moduleName_head, heads, moduleName_head]]

/-- The settings in the text of a file, as deep as is looked: none in a blank text and in an empty document. -/
inductive IsMapping (text : List Char) : List (Value × Value) → Prop where
  | blank : Text.trim text = [] → IsMapping text []
  | nothing {deep : Nat} : Text.trim text ≠ [] → Value.ofText deep text = .ok .null → depth ≤ deep →
      IsMapping text []
  | entries {deep : Nat} {entries : List (Value × Value)} : Text.trim text ≠ [] →
      Value.ofText deep text = .ok (.mapping entries) → depth ≤ deep → IsMapping text entries

theorem ofText_of_isMapping {text : List Char} {entries : List (Value × Value)} (isMapping : IsMapping text entries)
    (root : Path) (name : String) : ofText root name text = ofEntries root entries := by
  unfold ofText
  cases isMapping with
  | blank blank => rw [if_pos blank]
  | @nothing deep filled made within =>
    obtain ⟨more, rfl⟩ := Nat.exists_eq_add_of_le' within
    have shallow : Value.ofText depth text = .ok .null := Value.ofText_null made 2
    rw [if_neg filled, shallow]
  | @entries deep entries filled made within =>
    obtain ⟨more, rfl⟩ := Nat.exists_eq_add_of_le' within
    obtain ⟨construction, top, rfl, all⟩ := Value.ofText_mapping made
    have shallow : Value.ofText depth text = .ok (.mapping (construction.entriesAt 2 top)) := all 2
    rw [if_neg filled, shallow]
    exact (ofEntries_entriesAt root more top).symm

end Configuration
end UsingCensus
